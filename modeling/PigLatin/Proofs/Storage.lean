import PigLatin.Proofs.Dictionary
import PigLatin.Storage

/-!
# What names stand for

A registry resolves a name to an invocation that it holds, so whatever is true of all invocations
that were registered is true of those that names stand for.
-/

namespace PigLatin

namespace Registry

variable {P : String → Prop} {registry : Registry}

theorem forall_register (h : ∀ entry ∈ registry.entries, P entry.2) {name invocation : String}
    (hinvocation : P invocation) :
    ∀ entry ∈ (registry.register name invocation).entries, P entry.2 := by
  intro entry hentry
  rcases Dictionary.mem_insert hentry with rfl | hentry
  · exact hinvocation
  · exact h entry hentry

theorem forall_registerAll (h : ∀ entry ∈ registry.entries, P entry.2)
    {pairs : List (String × String)} (hpairs : ∀ pair ∈ pairs, P pair.2) :
    ∀ entry ∈ (registry.registerAll pairs).entries, P entry.2 := by
  induction pairs generalizing registry with
  | nil => exact h
  | cons pair pairs ih =>
    obtain ⟨hpair, hrest⟩ := List.forall_mem_cons.1 hpairs
    exact ih (forall_register h hpair) hrest

theorem of_resolve (h : ∀ entry ∈ registry.entries, P entry.2) {name invocation : String}
    (hname : registry.resolve name = .ok invocation) : P invocation := by
  unfold resolve at hname
  split at hname
  · next found hget =>
    cases hname
    exact h _ (Dictionary.mem_of_get? hget)
  · cases hname

end Registry

end PigLatin
