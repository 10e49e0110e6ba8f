import HostHealth.Dns.Resolver
import HostHealth.Proofs.Races

/- What a lookup makes of the walk behind it. A walk may well come back with no address at all;
   a lookup that comes back well never does. -/
namespace HostHealth.Dns.Resolver

open Net Timed

variable {r : Resolver} {names : NameService} {token : Token} {host : String} {start : Nat}
  {ips : List Ip}

theorem ask_of_never {α : Type} (call : Call) (reply : Nat → Reply α) :
    r.ask names .never call reply = request .never (some r.timeout) call reply :=
  raced_of_never _ call reply _

theorem lookup_returns_iff (named : Ip.read host = none) :
    Returns (r.lookup names token host) start (.ok ips) ↔
      ips ≠ [] ∧ Returns (r.walk names token (r.maxDepth + 1) host) start (.ok ips) := by
  unfold lookup
  rw [named, returns_bind_iff]
  constructor
  · rintro ⟨u, e | (_ | ⟨ip, more⟩), walked, rest⟩
    · cases returns_pure_iff.mp rest
    · cases returns_pure_iff.mp rest
    · cases returns_pure_iff.mp rest
      exact ⟨List.cons_ne_nil _ _, u, walked⟩
  · rintro ⟨some, u, walked⟩
    refine ⟨u, .ok ips, walked, ?_⟩
    cases ips with
    | nil => exact absurd rfl some
    | cons ip more => exact returns_pure_iff.mpr rfl

theorem lookup_fails_iff (named : Ip.read host = none) {e : DnsError} :
    Returns (r.lookup names token host) start (.error e) ↔
      e = .notFound ∧ Returns (r.walk names token (r.maxDepth + 1) host) start (.ok []) ∨
        Returns (r.walk names token (r.maxDepth + 1) host) start (.error e) := by
  unfold lookup
  rw [named, returns_bind_iff]
  constructor
  · rintro ⟨u, own | (_ | ⟨ip, more⟩), walked, rest⟩
    · cases returns_pure_iff.mp rest
      exact Or.inr ⟨u, walked⟩
    · cases returns_pure_iff.mp rest
      exact Or.inl ⟨rfl, u, walked⟩
    · cases returns_pure_iff.mp rest
  · rintro (⟨rfl, u, walked⟩ | ⟨u, walked⟩)
    · exact ⟨u, .ok [], walked, returns_pure_iff.mpr rfl⟩
    · exact ⟨u, .error e, walked, returns_pure_iff.mpr rfl⟩

theorem lookup_finds_nothing (named : Ip.read host = none)
    (walked : Returns (r.walk names token (r.maxDepth + 1) host) start (.ok [])) :
    Returns (r.lookup names token host) start (.error .notFound) :=
  (lookup_fails_iff named).mpr (Or.inl ⟨rfl, walked⟩)

theorem lookup_finds_some (returned : Returns (r.lookup names token host) start (.ok ips)) :
    ips ≠ [] := by
  cases literal : Ip.read host with
  | some ip =>
    unfold lookup at returned
    rw [literal] at returned
    cases returns_pure_iff.mp returned
    exact List.cons_ne_nil _ _
  | none => exact ((lookup_returns_iff literal).mp returned).1

theorem resolve_finds_some (returned : Returns (r.resolve names token host) start (.ok ips)) :
    ips ≠ [] := by
  unfold resolve at returned
  cases literal : Ip.read host with
  | some ip =>
    rw [literal] at returned
    cases returns_pure_iff.mp returned
    exact List.cons_ne_nil _ _
  | none =>
    rw [literal] at returned
    obtain ⟨u, found, _, rest⟩ := returns_bind_iff.mp returned
    rcases found with (e | (_ | ⟨ip, more⟩)) | _ | _
    · exact lookup_finds_some rest
    · exact lookup_finds_some rest
    · cases returns_pure_iff.mp rest
      exact List.cons_ne_nil _ _
    · exact lookup_finds_some rest
    · cases returns_pure_iff.mp rest

end HostHealth.Dns.Resolver
