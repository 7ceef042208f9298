/-!
# Text — Split

A text cut at every place where a character stands.  No piece holds the character
(`not_mem_of_mem_splitAt`), and joining the pieces by it gives the text back
(`intercalate_splitAt`).  Two texts joined by the character have the pieces of both
(`splitAt_append_cons`).
-/

namespace CompilerRunner.Text

/-- The pieces between the places where `sep` stands. -/
def splitAt (sep : Char) : List Char → List (List Char)
  | [] => [[]]
  | c :: rest =>
    if c = sep then [] :: splitAt sep rest
    else
      match splitAt sep rest with
      | piece :: pieces => (c :: piece) :: pieces
      | [] => [[c]]

/-- The pieces of a text between the places where `sep` stands. -/
def split (sep : Char) (s : String) : List String := (splitAt sep s.toList).map String.ofList

theorem splitAt_ne_nil (sep : Char) (cs : List Char) : splitAt sep cs ≠ [] := by
  induction cs with
  | nil => simp [splitAt]
  | cons c rest ih =>
    simp only [splitAt]
    split
    · simp
    · split <;> simp

theorem not_mem_of_mem_splitAt {sep : Char} {cs piece : List Char} (h : piece ∈ splitAt sep cs) :
    sep ∉ piece := by
  induction cs generalizing piece with
  | nil => simp_all [splitAt]
  | cons c rest ih =>
    by_cases hc : c = sep
    · rw [splitAt, if_pos hc, List.mem_cons] at h
      rcases h with rfl | h
      · simp
      · exact ih h
    · cases hs : splitAt sep rest with
      | nil => exact absurd hs (splitAt_ne_nil sep rest)
      | cons first pieces =>
        rw [splitAt, if_neg hc, hs] at h
        rcases List.mem_cons.1 h with rfl | h
        · have := ih (hs ▸ List.mem_cons_self)
          simp [this, Ne.symm hc]
        · exact ih (hs ▸ List.mem_cons_of_mem _ h)

/-- A piece holds nothing that the text does not hold. -/
theorem mem_of_mem_splitAt {c sep : Char} {cs piece : List Char} (h : piece ∈ splitAt sep cs)
    (hc : c ∈ piece) : c ∈ cs := by
  induction cs generalizing piece with
  | nil => simp_all [splitAt]
  | cons x rest ih =>
    by_cases hx : x = sep
    · rw [splitAt, if_pos hx, List.mem_cons] at h
      rcases h with rfl | h
      · cases hc
      · exact List.mem_cons_of_mem x (ih h hc)
    · cases hs : splitAt sep rest with
      | nil => exact absurd hs (splitAt_ne_nil sep rest)
      | cons first pieces =>
        rw [splitAt, if_neg hx, hs] at h
        rcases List.mem_cons.1 h with rfl | h
        · rcases List.mem_cons.1 hc with rfl | hc
          · exact List.mem_cons_self
          · exact List.mem_cons_of_mem x (ih (hs ▸ List.mem_cons_self) hc)
        · exact List.mem_cons_of_mem x (ih (hs ▸ List.mem_cons_of_mem _ h) hc)

theorem intercalate_splitAt (sep : Char) (cs : List Char) :
    List.intercalate [sep] (splitAt sep cs) = cs := by
  induction cs with
  | nil => rfl
  | cons c rest ih =>
    cases hs : splitAt sep rest with
    | nil => exact absurd hs (splitAt_ne_nil sep rest)
    | cons first pieces =>
      rw [hs] at ih
      by_cases h : c = sep
      · subst h
        simp only [splitAt, if_true, hs]
        cases pieces <;> simp_all [List.intercalate, List.intersperse]
      · simp only [splitAt, if_neg h, hs]
        cases pieces <;> simp_all [List.intercalate, List.intersperse]

variable {sep : Char}

theorem splitAt_eq_singleton {cs : List Char} (h : sep ∉ cs) : splitAt sep cs = [cs] := by
  induction cs with
  | nil => rfl
  | cons c rest ih =>
    rw [List.mem_cons, not_or] at h
    rw [splitAt, if_neg (Ne.symm h.1), ih h.2]

theorem splitAt_append_cons (xs ys : List Char) :
    splitAt sep (xs ++ sep :: ys) = splitAt sep xs ++ splitAt sep ys := by
  induction xs with
  | nil => simp [splitAt]
  | cons c rest ih =>
    by_cases h : c = sep
    · simp [splitAt, h, ih]
    · cases hs : splitAt sep rest with
      | nil => exact absurd hs (splitAt_ne_nil sep rest)
      | cons piece pieces => simp [splitAt, h, ih, hs]

theorem split_eq_singleton {s : String} (h : sep ∉ s.toList) : split sep s = [s] := by
  rw [split, splitAt_eq_singleton h, List.map_singleton, String.ofList_toList]

theorem split_append (s t : String) :
    split sep (s ++ String.singleton sep ++ t) = split sep s ++ split sep t := by
  have : (s ++ String.singleton sep ++ t).toList = s.toList ++ sep :: t.toList := by simp
  rw [split, this, splitAt_append_cons, List.map_append]
  rfl

theorem split_ne_nil (s : String) : split sep s ≠ [] := by
  simpa [split] using splitAt_ne_nil sep s.toList

theorem not_mem_of_mem_split {s piece : String} (h : piece ∈ split sep s) : sep ∉ piece.toList := by
  obtain ⟨cs, hcs, rfl⟩ := List.mem_map.mp h
  rw [String.toList_ofList]
  exact not_mem_of_mem_splitAt hcs

theorem mem_of_mem_split {c : Char} {s piece : String} (h : piece ∈ split sep s)
    (hc : c ∈ piece.toList) : c ∈ s.toList := by
  obtain ⟨cs, hcs, rfl⟩ := List.mem_map.mp h
  rw [String.toList_ofList] at hc
  exact mem_of_mem_splitAt hcs hc

theorem intercalate_split (s : String) : (String.singleton sep).intercalate (split sep s) = s := by
  apply String.toList_inj.mp
  rw [String.toList_intercalate, split, List.map_map]
  have : String.toList ∘ String.ofList = id := funext fun _ => String.toList_ofList
  rw [this, List.map_id, String.toList_singleton, intercalate_splitAt]

end CompilerRunner.Text
