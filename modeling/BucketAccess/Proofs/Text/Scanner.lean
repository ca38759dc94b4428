/-!
# Runs of scanners

A scanner takes one character after the other, as long as each belongs to what it reads.
-/

namespace BucketAccess

variable {σ α : Type} {next? : σ → α → Option σ} {p q s : σ} {c : α} {t u : List α}

/-- What the characters make of a scanner. -/
def Leads (next? : σ → α → Option σ) (p : σ) (t : List α) (q : σ) : Prop :=
  t.foldlM next? p = some q

namespace Leads

theorem nil : Leads next? p [] p := rfl

theorem cons_iff : Leads next? p (c :: t) q ↔ ∃ s, next? p c = some s ∧ Leads next? s t q := by
  rw [Leads, List.foldlM_cons]
  exact Option.bind_eq_some_iff

theorem cons (h : next? p c = some q) (hs : Leads next? q t s) : Leads next? p (c :: t) s :=
  cons_iff.2 ⟨q, h, hs⟩

theorem append (h : Leads next? p t q) (hs : Leads next? q u s) : Leads next? p (t ++ u) s := by
  rw [Leads, List.foldlM_append, h]
  exact hs

end Leads

end BucketAccess
