import HostHealth.Dns.Resolver
import HostHealth.Proofs.Races

/- A resolution that is cut at an instant. Where it is cut does not matter: the error comes out
   behind one wrapping for every alias that had been followed, and is the cancellation at root. -/
namespace HostHealth

open Net Timed

namespace Dns.Resolver

variable (c : Nat) (r : Resolver) (names : NameService) (token : Token)

/-- A resolution that was given up, behind however many aliases. -/
def GivenUp {α : Type} (result : Except DnsError α) : Prop :=
  ∃ e, result = .error e ∧ e.root = .canceled

def end? (call : Nat × Call) : Option Nat :=
  match call.2 with
  | .systemLookup host =>
    (undisturbed (some r.timeout) (fun t => names.system t host) call.1).instant?
  | .recordQuery type name _ =>
    (undisturbed (some r.timeout) (fun t => names.records t name type) call.1).instant?
  | _ => none

/-- A lookup that is ahead and comes to its end just at `c`, or at once if it is made later. -/
def TiedAt (call : Nat × Call) : Prop :=
  names.ahead none call.1 call.2 = true ∧ r.end? names call = some (max call.1 c)

instance : DecidablePred (TiedAt c r names) := fun _ => inferInstanceAs (Decidable (_ ∧ _))

theorem query_cut (name : String) (type : RecordType) :
    CleanCut c (TiedAt c r names) (query r names token name type)
      (query r names (token.meet (.cancelledFrom c)) name type) fun _ => GivenUp := by
  apply bind_cut (fun _ _ _ => False)
    (raced_cut token _ _ _ _ fun _ first ended => ⟨first, ended⟩)
    (fun response => pure_cut (outcome response) _)
  · rintro start response _ rfl
    exact ⟨.error .canceled, rfl, .canceled, rfl, rfl⟩
  · intro start t response result _ _ nothing
    exact nothing.elim

theorem system_lookup_cut (host : String) :
    CleanCut c (TiedAt c r names) (systemLookup r names token host)
      (systemLookup r names (token.meet (.cancelledFrom c)) host)
      fun _ response => response = .cancelled :=
  raced_cut token _ _ _ _ fun _ first ended => ⟨first, ended⟩

theorem then_cut {tied : Nat × Call → Prop} {α β : Type} {first first' : Timed Call (Except DnsError α)}
    {next next' : Except DnsError α → Timed Call (Except DnsError β)} (wrap : DnsError → DnsError)
    (sameRoot : ∀ e, (wrap e).root = e.root)
    (begun : CleanCut c tied first first' fun _ => GivenUp)
    (failed : ∀ e, next (.error e) = pure (.error (wrap e)))
    (failed' : ∀ e, next' (.error e) = pure (.error (wrap e)))
    (continued : ∀ value, CleanCut c tied (next (.ok value)) (next' (.ok value)) fun _ => GivenUp) :
    CleanCut c tied (first >>= next) (first' >>= next') fun _ => GivenUp := by
  have each : ∀ result, CleanCut c tied (next result) (next' result) fun _ => GivenUp := by
    rintro (e | value)
    · rw [failed, failed']
      exact pure_cut _ _
    · exact continued value
  apply bind_cut (fun _ _ => GivenUp) begun each
  · rintro start _ _ ⟨e, rfl, canceled⟩
    rw [failed']
    exact ⟨.error (wrap e), rfl, wrap e, rfl, (sameRoot e).trans canceled⟩
  · intro start t result final _ _ given
    exact given

theorem follow_cut {tied : Nat × Call → Prop} {walk walk' : String → Lookup}
    (each : ∀ name, CleanCut c tied (walk name) (walk' name) fun _ => GivenUp)
    (targets : List String) :
    CleanCut c tied (follow walk targets) (follow walk' targets) fun _ => GivenUp := by
  induction targets with
  | nil => exact pure_cut _ _
  | cons target rest ih =>
    refine then_cut c (.behindAlias target) (fun _ => rfl) (each target) (fun _ => rfl)
      (fun _ => rfl) fun found => ?_
    refine then_cut c id (fun _ => rfl) ih (fun _ => rfl) (fun _ => rfl) fun more => ?_
    exact pure_cut _ _

theorem walk_cut (levels : Nat) (name : String) :
    CleanCut c (TiedAt c r names) (walk r names token levels name)
      (walk r names (token.meet (.cancelledFrom c)) levels name) fun _ => GivenUp := by
  induction levels generalizing name with
  | zero => exact pure_cut _ _
  | succ levels ih =>
    -- Three questions and then the aliases, which add their names to a cancellation but keep its
    -- root.
    refine then_cut c id (fun _ => rfl) (query_cut c r names token name .a) (fun _ => rfl)
      (fun _ => rfl) fun a => ?_
    refine then_cut c id (fun _ => rfl) (query_cut c r names token name .aaaa) (fun _ => rfl)
      (fun _ => rfl) fun aaaa => ?_
    refine then_cut c id (fun _ => rfl) (query_cut c r names token name .cname) (fun _ => rfl)
      (fun _ => rfl) fun cname => ?_
    refine then_cut c id (fun _ => rfl) (follow_cut c ih _) (fun _ => rfl)
      (fun _ => rfl) fun behind => ?_
    exact pure_cut _ _

theorem lookup_cut (host : String) :
    CleanCut c (TiedAt c r names) (lookup r names token host)
      (lookup r names (token.meet (.cancelledFrom c)) host) fun _ => GivenUp := by
  unfold lookup
  cases Ip.read host with
  | some ip => exact pure_cut _ _
  | none =>
    refine then_cut c id (fun _ => rfl) (walk_cut c r names token _ host) (fun _ => rfl)
      (fun _ => rfl) ?_
    rintro (_ | ⟨ip, more⟩)
    · exact pure_cut _ _
    · exact pure_cut _ _

theorem resolve_at_once {start : Nat} {token : Token} (cancelled : token.isCancelled start = true)
    (late : c ≤ start) (host : String) :
    AtOnce start (TiedAt c r names) (fun result => ∀ e, result = .error e → e = .canceled)
      (resolve r names token host) := by
  unfold resolve
  cases named : Ip.read host with
  | some ip => exact pure_at_once fun e same => by cases same
  | none =>
    have asked : AtOnce start (TiedAt c r names) (fun response => response = .cancelled)
        (systemLookup r names token host) :=
      raced_at_once token _ _ _ _ (fun _ first ended => ⟨first, ended⟩) cancelled late
    apply bind_at_once asked
    rintro _ rfl
    exact pure_at_once fun e same => by cases same; rfl

theorem resolve_cut (host : String) :
    CleanCut c (TiedAt c r names) (resolve r names token host)
      (resolve r names (token.meet (.cancelledFrom c)) host) fun _ => GivenUp := by
  unfold resolve
  cases named : Ip.read host with
  | some ip => exact pure_cut _ _
  | none =>
    apply bind_cut (fun _ _ => GivenUp) (system_lookup_cut c r names token host)
    · rintro ((e | (_ | ⟨ip, more⟩)) | _ | _)
      · exact lookup_cut c r names token host
      · exact lookup_cut c r names token host
      · exact pure_cut _ _
      · exact lookup_cut c r names token host
      · exact pure_cut _ _
    · rintro start _ _ rfl
      exact ⟨.error .canceled, rfl, .canceled, rfl, rfl⟩
    · intro start t response final _ _ given
      exact given

end Dns.Resolver
end HostHealth
