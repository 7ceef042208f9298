/-!
# Table

Finite tables from names to values, in order of insertion.  `insert` keeps the place of a name that
is already there; what a look-up gives after it is `get?_insert`.  `overlay` inserts one table's
entries into another, so that the later table decides (`get?_overlay`).
-/

namespace CompilerRunner

/-- A table: each name once, in the order of insertion. -/
abbrev Table (α : Type) := List (String × α)

namespace Table

variable {α : Type}

/-- The value at a name. -/
def get? : Table α → String → Option α
  | [], _ => none
  | (k', v) :: rest, k => if k' = k then some v else get? rest k

/-- The table with `v` at `k`, in the place of `k` if it has one and at the end otherwise. -/
def insert : Table α → String → α → Table α
  | [], k, v => [(k, v)]
  | (k', v') :: rest, k, v => if k' = k then (k', v) :: rest else (k', v') :: insert rest k v

/-- The names, in order. -/
def names (t : Table α) : List String := t.map Prod.fst

/-- The table with the entries of `upper` inserted one after another. -/
def overlay (lower upper : Table α) : Table α :=
  upper.foldl (fun t e => t.insert e.1 e.2) lower

/-- The table without the name. -/
def erase (t : Table α) (k : String) : Table α := t.filter fun e => e.1 ≠ k

@[simp] theorem get?_nil (k : String) : get? ([] : Table α) k = none := rfl

theorem isSome_get?_iff {t : Table α} {k : String} : (t.get? k).isSome = true ↔ k ∈ t.names := by
  induction t with
  | nil => simp [names]
  | cons e rest ih =>
    rw [names, List.map_cons, List.mem_cons, get?]
    by_cases h : e.1 = k
    · simp [h]
    · rw [if_neg h, ih]
      exact ⟨.inr, fun hm => hm.resolve_left (Ne.symm h)⟩

theorem get?_insert (t : Table α) (k k' : String) (v : α) :
    (t.insert k v).get? k' = if k = k' then some v else t.get? k' := by
  induction t with
  | nil => simp [insert, get?]
  | cons e rest ih =>
    obtain ⟨n, w⟩ := e
    by_cases h : n = k
    · subst h
      by_cases h' : n = k' <;> simp [insert, get?, h']
    · by_cases h' : n = k'
      · subst h'
        simp [insert, get?, h, Ne.symm h]
      · simp [insert, get?, h, h', ih]

theorem get?_append (l r : Table α) (k : String) :
    get? (l ++ r) k = (l.get? k).or (r.get? k) := by
  induction l with
  | nil => simp
  | cons e rest ih => by_cases h : e.1 = k <;> simp [get?, h, ih]

/-- Of several entries with one name the last decides; a name that `upper` lacks is looked up in
`lower`. -/
theorem get?_overlay (lower upper : Table α) (k : String) :
    (lower.overlay upper).get? k = (get? upper.reverse k).or (lower.get? k) := by
  unfold overlay
  induction upper generalizing lower with
  | nil => simp
  | cons e rest ih =>
    simp only [List.foldl_cons, ih, get?_insert, List.reverse_cons, get?_append, get?]
    by_cases h : e.1 = k <;> simp [h]

end Table

end CompilerRunner
