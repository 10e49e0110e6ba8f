import HostHealth.Proofs.BoundedLookups
import HostHealth.Proofs.Replies
import HostHealth.Proofs.Shifts

/- What the machine's own lookup decides. If it comes to anything but an address or a crash, the
   name server is asked, and what that comes to is the result. -/
namespace HostHealth.Dns

open Net Timed

abbrev SystemReply := Reply (Except DnsError (List Ip))

namespace SystemReply

/-- Some addresses, in time. -/
def Serves (timeout : Nat) (reply : SystemReply) (delay : Nat) (ips : List Ip) : Prop :=
  reply = .answer delay (.ok ips) ∧ delay ≤ timeout ∧ ips ≠ []

def Crashes (timeout : Nat) (reply : SystemReply) (delay : Nat) (reason : String) : Prop :=
  reply = .crash delay reason ∧ delay ≤ timeout

def wait (timeout : Nat) (reply : SystemReply) : Nat := min (reply.delay?.getD timeout) timeout

end SystemReply

namespace Resolver

variable {r : Resolver} {names : NameService} {host : String} {start delay : Nat}

section SystemLookups

theorem system_lookup_of_answer {result : Except DnsError (List Ip)}
    (came : names.system start host = .answer delay result) (inTime : delay ≤ r.timeout) :
    r.systemLookup names .never host start =
      ⟨[(start, .systemLookup host)], .returned (start + delay) (.answered result)⟩ := by
  unfold systemLookup
  rw [ask_of_never]
  exact request_of_answer .never (Call.systemLookup host) (fun t => names.system t host) came inTime
    rfl

theorem system_lookup_of_crash {reason : String}
    (came : names.system start host = .crash delay reason) (inTime : delay ≤ r.timeout) :
    r.systemLookup names .never host start =
      ⟨[(start, .systemLookup host)], .crashed (start + delay) reason⟩ := by
  unfold systemLookup
  rw [ask_of_never]
  exact request_of_crash .never (Call.systemLookup host) (fun t => names.system t host) came inTime
    rfl

theorem system_lookup_of_silence (late : (names.system start host).IsLate r.timeout) :
    r.systemLookup names .never host start =
      ⟨[(start, .systemLookup host)], .returned (start + r.timeout) .timedOut⟩ := by
  unfold systemLookup
  rw [ask_of_never]
  exact request_of_silence .never (Call.systemLookup host) (fun t => names.system t host) late rfl

theorem wait_of_late {timeout : Nat} {reply : SystemReply} (late : reply.IsLate timeout) :
    SystemReply.wait timeout reply = timeout := by
  unfold SystemReply.wait
  cases came : reply.delay? with
  | none => exact Nat.min_self _
  | some delay => exact Nat.min_eq_right (Nat.le_of_lt (late delay came))

theorem system_lookup_of_no_use
    (unserved : ∀ delay ips, ¬ SystemReply.Serves r.timeout (names.system start host) delay ips)
    (unharmed : ∀ delay reason,
      ¬ SystemReply.Crashes r.timeout (names.system start host) delay reason) :
    ∃ response, (∀ ip ips, response ≠ .answered (.ok (ip :: ips))) ∧ response ≠ .cancelled ∧
      r.systemLookup names .never host start =
        ⟨[(start, .systemLookup host)],
          .returned (start + SystemReply.wait r.timeout (names.system start host)) response⟩ := by
  rcases reply_cases r.timeout (names.system start host) with
    ⟨delay, inTime, result, came⟩ | ⟨delay, inTime, reason, came⟩ | late
  · have wait : SystemReply.wait r.timeout (names.system start host) = delay := by
      rw [came]
      exact Nat.min_eq_left inTime
    refine ⟨.answered result, ?_, nofun, ?_⟩
    · rintro ip ips same
      cases same
      exact unserved delay (ip :: ips) ⟨came, inTime, List.cons_ne_nil _ _⟩
    · rw [wait, system_lookup_of_answer came inTime]
  · exact absurd ⟨came, inTime⟩ (unharmed delay reason)
  · exact ⟨.timedOut, nofun, nofun, by rw [wait_of_late late, system_lookup_of_silence late]⟩

end SystemLookups

section Resolutions

variable (named : Ip.read host = none)
include named

theorem resolve_of_served {ips : List Ip}
    (serves : SystemReply.Serves r.timeout (names.system start host) delay ips) :
    r.resolve names .never host start =
      ⟨[(start, .systemLookup host)], .returned (start + delay) (.ok ips)⟩ := by
  obtain ⟨came, inTime, some⟩ := serves
  have asked := system_lookup_of_answer came inTime
  unfold resolve
  rw [named]
  dsimp only
  rw [bind_of_returned (by rw [asked]), asked]
  cases ips with
  | nil => exact absurd rfl some
  | cons ip ips => rfl

theorem resolve_of_crash {reason : String}
    (crashes : SystemReply.Crashes r.timeout (names.system start host) delay reason) :
    r.resolve names .never host start =
      ⟨[(start, .systemLookup host)], .crashed (start + delay) reason⟩ := by
  have asked := system_lookup_of_crash crashes.1 crashes.2
  unfold resolve
  rw [named]
  dsimp only
  rw [bind_of_crashed (by rw [asked]), asked]

theorem resolve_of_no_use
    (unserved : ∀ delay ips, ¬ SystemReply.Serves r.timeout (names.system start host) delay ips)
    (unharmed : ∀ delay reason,
      ¬ SystemReply.Crashes r.timeout (names.system start host) delay reason) :
    let later := start + SystemReply.wait r.timeout (names.system start host)
    r.resolve names .never host start =
      ⟨(start, .systemLookup host) :: (r.lookup names .never host later).calls,
        (r.lookup names .never host later).ending⟩ := by
  intro later
  obtain ⟨response, useless, undisturbed, asked⟩ := system_lookup_of_no_use unserved unharmed
  unfold resolve
  rw [named]
  dsimp only
  rw [bind_of_returned (by rw [asked]), asked]
  rcases response with (e | _ | ⟨ip, ips⟩) | _ | _
  · rfl
  · rfl
  · exact absurd rfl (useless ip ips)
  · rfl
  · exact absurd rfl undisturbed

end Resolutions

theorem returns_of_seen_from {κ α : Type} {activity : Timed κ α} {s : Nat} {told : Course κ α}
    (own : activity s = told.seenFrom s id) {result : α} :
    Returns activity s result ↔ ∃ t, told.ending = .returned t result := by
  unfold Returns
  rw [own]
  cases ended : told.ending with
  | returned t value => simp [Course.seenFrom, Ending.seenFrom, ended]
  | crashed t reason => simp [Course.seenFrom, Ending.seenFrom, ended]
  | pending => simp [Course.seenFrom, Ending.seenFrom, ended]

theorem lookup_at_any_time {records : Records} (same : ∀ t, names.records t = records)
    (host : String) (s u : Nat) :
    (∀ result, Returns (r.lookup names .never host) s result ↔
      Returns (r.lookup names .never host) u result) ∧
    (r.lookup names .never host s).calls.map Prod.snd =
      (r.lookup names .never host u).calls.map Prod.snd := by
  have alike : Alike s u _ (r.lookup names .never host) (r.lookup names .never host) := by
    apply lookups_related (alike_congruent Call s u)
    intro name type
    rw [ask_of_never]
    apply request_alike
    · exact fun _ => rfl
    · intro d
      rw [same, same]
  obtain ⟨told, own, other⟩ := alike 0
  rw [Nat.add_zero] at own other
  constructor
  · intro result
    rw [returns_of_seen_from own, returns_of_seen_from other]
  · rw [own, other]
    simp [Course.seenFrom]

/-- What the resolver does with a host name under a token that is never cancelled, beside a direct
    lookup of it. An address in the name needs neither. Addresses from the machine's own lookup are
    the result, and nobody else is asked. If it is of no other use than that, all is as if there had
    only been a direct lookup, which starts when it is over. -/
theorem resolve_falls_back (r : Resolver) (names : NameService) (host : String) (start : Nat) :
    let resolve := r.resolve names .never host
    let lookup := r.lookup names .never host
    let reply : SystemReply := names.system start host
    (∀ ip, Ip.read host = some ip →
      resolve start = ⟨[], .returned start (.ok [ip])⟩ ∧
      lookup start = ⟨[], .returned start (.ok [ip])⟩) ∧
    (Ip.read host = none →
      (∀ delay ips, SystemReply.Serves r.timeout reply delay ips →
        resolve start = ⟨[(start, .systemLookup host)], .returned (start + delay) (.ok ips)⟩) ∧
      (∀ delay reason, SystemReply.Crashes r.timeout reply delay reason →
        resolve start = ⟨[(start, .systemLookup host)], .crashed (start + delay) reason⟩) ∧
      ((∀ delay ips, ¬ SystemReply.Serves r.timeout reply delay ips) →
        (∀ delay reason, ¬ SystemReply.Crashes r.timeout reply delay reason) →
        let later := lookup (start + SystemReply.wait r.timeout reply)
        resolve start = ⟨(start, .systemLookup host) :: later.calls, later.ending⟩ ∧
        ∀ records : Records, (∀ t, names.records t = records) → ∀ s,
          (∀ result, Returns resolve start result ↔ Returns lookup s result) ∧
          (resolve start).calls.map Prod.snd =
            .systemLookup host :: (lookup s).calls.map Prod.snd)) ∧
    (∀ s, ∀ call ∈ (lookup s).calls, call.2.isRecordQuery = true) ∧
    (∀ ips, Returns resolve start (.ok ips) → ips ≠ []) ∧
    ∀ ips, Returns lookup start (.ok ips) → ips ≠ [] := by
  intro resolve lookup reply
  refine ⟨?_, ?_, lookup_asks_for_records host, fun _ => resolve_finds_some,
    fun _ => lookup_finds_some⟩
  · intro ip literal
    constructor
    · simp only [resolve, Resolver.resolve, literal]
      rfl
    · simp only [lookup, Resolver.lookup, literal]
      rfl
  · intro named
    refine ⟨fun _ _ => resolve_of_served named, fun _ _ => resolve_of_crash named, ?_⟩
    intro unserved unharmed later
    have fallen : resolve start = ⟨(start, .systemLookup host) :: later.calls, later.ending⟩ :=
      resolve_of_no_use named unserved unharmed
    refine ⟨fallen, ?_⟩
    intro records same s
    obtain ⟨returns, calls⟩ := lookup_at_any_time (r := r) same host
      (start + SystemReply.wait r.timeout reply) s
    constructor
    · intro result
      rw [← returns]
      unfold Returns
      rw [fallen]
    · rw [fallen, ← calls]
      rfl

theorem fallback_of_forked :
    let refusing := forked.service fun _ _ => .answer 4 (.error .canceled)
    let finding := forked.service fun _ _ => .answer 4 (.ok [.v4 ⟨192, 0, 2, 9⟩])
    let resolve := standard.resolve refusing .never
    let lookup := standard.lookup refusing .never
    let reply : SystemReply := refusing.system 0 "www.example"
    let found : List Ip := [.v4 ⟨192, 0, 2, 1⟩, .v4 ⟨192, 0, 2, 2⟩, .v4 ⟨192, 0, 2, 2⟩]
    Ip.read "www.example" = none ∧
    (∀ delay ips, ¬ SystemReply.Serves standard.timeout reply delay ips) ∧
    (∀ delay reason, ¬ SystemReply.Crashes standard.timeout reply delay reason) ∧
    Returns (resolve "www.example") 0 (.ok found) ∧
    (resolve "www.example" 0).calls.map Prod.snd =
      .systemLookup "www.example" :: (lookup "www.example" 0).calls.map Prod.snd ∧
    SystemReply.Serves standard.timeout (finding.system 0 "www.example") 4 [.v4 ⟨192, 0, 2, 9⟩] ∧
    standard.resolve finding .never "www.example" 0 =
      ⟨[(0, .systemLookup "www.example")], .returned 4 (.ok [.v4 ⟨192, 0, 2, 9⟩])⟩ ∧
    Ip.read "192.0.2.7" = some (.v4 ⟨192, 0, 2, 7⟩) ∧
    resolve "192.0.2.7" 0 = ⟨[], .returned 0 (.ok [.v4 ⟨192, 0, 2, 7⟩])⟩ := by
  intro refusing finding resolve lookup reply found
  have refused : reply = .answer 4 (.error .canceled) := rfl
  have unserved : ∀ delay ips, ¬ SystemReply.Serves standard.timeout reply delay ips := by
    rintro delay ips ⟨came, _⟩
    cases refused.symm.trans came
  have unharmed : ∀ delay reason, ¬ SystemReply.Crashes standard.timeout reply delay reason := by
    rintro delay reason ⟨came, _⟩
    cases refused.symm.trans came
  have served : SystemReply.Serves standard.timeout (finding.system 0 "www.example") 4
      [.v4 ⟨192, 0, 2, 9⟩] := ⟨rfl, by decide, List.cons_ne_nil _ _⟩
  have named : Ip.read "www.example" = none := by decide
  have came : Returns (lookup "www.example") 0 (.ok found) := ⟨9, rfl⟩
  have ofRefusing := resolve_falls_back standard refusing "www.example" 0
  have ofFinding := resolve_falls_back standard finding "www.example" 0
  have ofLiteral := resolve_falls_back standard refusing "192.0.2.7" 0
  obtain ⟨returns, calls⟩ := ((ofRefusing.2.1 named).2.2 unserved unharmed).2 forked
    (fun _ => rfl) 0
  exact ⟨named, unserved, unharmed, (returns _).mpr came, calls, served,
    (ofFinding.2.1 named).1 4 _ served, by decide, (ofLiteral.1 _ (by decide)).1⟩

end Resolver
end HostHealth.Dns
