import CompilerRunner.Shell.Quoting
import Mathlib

/-!
# Proofs — ShellWords

The rules by which a shell takes a line apart into words, and that quoted words are read back by
them.

* `Fragment`, `Written`, `Line`: the rules.  A word is written in fragments that touch, each of them
  a character that stands for itself, an escaped one, or a quotation; what lies between words is
  blank.  By no rule is anything replaced, and none speaks of a backslash that ends a text.
* `Line.wordsFrom_eq`: the reader follows the rules, so that a line is read in one way only
  (`Reads.unique`).
* `follows_of_wordsFrom`: it does nothing else, and so reads a text exactly by the rules if no
  backslash ends it (`splitWords?_eq_some_iff`).
* `quote_written`: a word between quotes is written in fragments, whatever it holds.
* `reads_joinWords`: **a line of quoted words is read as these words**, and as no others.
-/

namespace CompilerRunner.Shell

variable {c : Char} {cs ds vs rest w v r : List Char} {ws : List (List Char)} {p : Place}

/-! ### The rules -/

/-- A character that stands for itself outside quotes. -/
def isBare (c : Char) : Bool :=
  !(isSeparating c || isSpecial c || c = '\'' || c = '"' || c = '\\')

/-- What stands between double quotes, and what it stands for.  A backslash is taken away before a
character that it keeps, and before the end of a line together with it. -/
inductive Within : List Char → List Char → Prop
  | nil : Within [] []
  | char {c : Char} {cs vs : List Char} (quote : c ≠ '"') (backslash : c ≠ '\\') (dollar : c ≠ '$')
      (backquote : c ≠ Char.ofNat 0x60) (rest : Within cs vs) : Within (c :: cs) (c :: vs)
  | kept {c : Char} {cs vs : List Char} (kept : isKept c = true) (rest : Within cs vs) :
      Within ('\\' :: c :: cs) (c :: vs)
  | backslash {c : Char} {cs vs : List Char} (kept : isKept c = false) (line : c ≠ '\n')
      (rest : Within cs vs) : Within ('\\' :: c :: cs) ('\\' :: c :: vs)
  | continued {cs vs : List Char} (rest : Within cs vs) : Within ('\\' :: '\n' :: cs) vs

/-- A fragment of a word, and what it stands for. -/
inductive Fragment : List Char → List Char → Prop
  | bare {c : Char} (h : isBare c = true) : Fragment [c] [c]
  | escaped {c : Char} (h : c ≠ '\n') : Fragment ['\\', c] [c]
  | single {cs : List Char} (h : '\'' ∉ cs) : Fragment ('\'' :: cs ++ ['\'']) cs
  | double {cs vs : List Char} (h : Within cs vs) : Fragment ('"' :: cs ++ ['"']) vs

/-- Fragments that touch, and what they stand for together.  A word may go on in the next line,
behind a backslash. -/
inductive Fragments : List Char → List Char → Prop
  | nil : Fragments [] []
  | cons {cs ds vs ws : List Char} (first : Fragment cs vs) (rest : Fragments ds ws) :
      Fragments (cs ++ ds) (vs ++ ws)
  | continued {ds ws : List Char} (rest : Fragments ds ws) : Fragments ('\\' :: '\n' :: ds) ws

/-- A word as it is written: one fragment at least, which may stand for nothing. -/
inductive Written : List Char → List Char → Prop
  | intro {cs ds vs ws : List Char} (first : Fragment cs vs) (rest : Fragments ds ws) :
      Written (cs ++ ds) (vs ++ ws)

/-- A line, and its words in order. -/
inductive Line : List Char → List (List Char) → Prop
  | nil : Line [] []
  | blank {c : Char} {cs : List Char} {ws : List (List Char)} (h : isSeparating c = true)
      (rest : Line cs ws) : Line (c :: cs) ws
  | continued {cs : List Char} {ws : List (List Char)} (rest : Line cs ws) :
      Line ('\\' :: '\n' :: cs) ws
  | last {cs w : List Char} (h : Written cs w) : Line cs [w]
  | word {c : Char} {cs ds w : List Char} {ws : List (List Char)} (h : Written cs w)
      (ends : isSeparating c = true) (rest : Line ds ws) : Line (cs ++ c :: ds) (w :: ws)

/-- The text is read as these words by the rules of the shell. -/
def Reads (text : String) (words : List String) : Prop :=
  Line text.toList (words.map String.toList)

/-! ### The reader follows the rules -/

theorem isSeparating_iff : isSeparating c = true ↔ c = ' ' ∨ c = '\t' ∨ c = '\n' := by
  simp [isSeparating, or_assoc]

/-- Not within quotes. -/
def Place.Outside : Place → Prop
  | .between | .bare _ => True
  | .single _ | .double _ => False

theorem Place.outside_between : Place.between.Outside := True.intro

theorem Place.outside_bare (r : List Char) : (Place.bare r).Outside := True.intro

theorem wordsFrom_bare (hp : p.Outside) (h : isBare c = true) :
    wordsFrom p (c :: rest) = wordsFrom (.bare (p.read ++ [c])) rest := by
  simp only [isBare, Bool.not_eq_true', Bool.or_eq_false_iff, decide_eq_false_iff_not] at h
  obtain ⟨⟨⟨⟨separating, special⟩, single⟩, double⟩, backslash⟩ := h
  cases p with
  | between | bare r => simp_all [wordsFrom, Place.read]
  | single r | double r => cases hp

theorem wordsFrom_single (hp : p.Outside) :
    wordsFrom p ('\'' :: rest) = wordsFrom (.single p.read) rest := by
  cases p with
  | between | bare r => rfl
  | single r | double r => cases hp

theorem wordsFrom_double (hp : p.Outside) :
    wordsFrom p ('"' :: rest) = wordsFrom (.double p.read) rest := by
  cases p with
  | between | bare r => rfl
  | single r | double r => cases hp

theorem wordsFrom_escaped (hp : p.Outside) (h : c ≠ '\n') :
    wordsFrom p ('\\' :: c :: rest) = wordsFrom (.bare (p.read ++ [c])) rest := by
  cases p with
  | between | bare r => simp [wordsFrom]
  | single r | double r => cases hp

theorem wordsFrom_continued (hp : p.Outside) :
    wordsFrom p ('\\' :: '\n' :: rest) = wordsFrom p rest := by
  cases p with
  | between | bare r => rfl
  | single r | double r => cases hp

theorem wordsFrom_single_append (h : '\'' ∉ cs) :
    wordsFrom (.single r) (cs ++ '\'' :: rest) = wordsFrom (.bare (r ++ cs)) rest := by
  induction cs generalizing r with
  | nil => exact congrArg (wordsFrom · rest) (congrArg Place.bare (List.append_nil r).symm)
  | cons c cs ih =>
      rw [List.mem_cons, not_or] at h
      rw [List.cons_append, wordsFrom.eq_2 _ _ _ (fun e => h.1 e.symm), ih h.2, List.append_assoc,
        List.singleton_append]

theorem Within.wordsFrom_eq (h : Within cs vs) :
    wordsFrom (.double r) (cs ++ '"' :: rest) = wordsFrom (.bare (r ++ vs)) rest := by
  induction h generalizing r with
  | nil => simp [wordsFrom]
  | char quote backslash dollar backquote _ ih =>
      simp [wordsFrom, backslash, dollar, backquote, ih]
  | @kept c cs vs kept _ ih =>
      have line : c ≠ '\n' := fun e => by
        rw [e] at kept
        revert kept
        decide
      simp [wordsFrom, kept, ih]
  | backslash kept line _ ih => simp [wordsFrom, kept, ih]
  | continued _ ih => simp [wordsFrom, ih]

theorem Fragment.wordsFrom_eq (h : Fragment cs vs) (hp : p.Outside) :
    wordsFrom p (cs ++ rest) = wordsFrom (.bare (p.read ++ vs)) rest := by
  cases h with
  | bare h => exact wordsFrom_bare hp h
  | escaped h => exact wordsFrom_escaped hp h
  | single h =>
      rw [List.append_assoc, List.cons_append, wordsFrom_single hp]
      exact wordsFrom_single_append h
  | double h =>
      rw [List.append_assoc, List.cons_append, wordsFrom_double hp]
      exact h.wordsFrom_eq

theorem Fragments.wordsFrom_eq (h : Fragments cs vs) :
    wordsFrom (.bare r) (cs ++ rest) = wordsFrom (.bare (r ++ vs)) rest := by
  induction h generalizing r with
  | nil => simp
  | cons first _ ih =>
      rw [List.append_assoc, first.wordsFrom_eq (Place.outside_bare r), ih, Place.read,
        List.append_assoc]
  | continued _ ih =>
      rw [List.cons_append, List.cons_append, wordsFrom_continued (Place.outside_bare r), ih]

theorem Written.wordsFrom_eq (h : Written cs w) :
    wordsFrom .between (cs ++ rest) = wordsFrom (.bare w) rest := by
  cases h with
  | intro first more =>
      rw [List.append_assoc, first.wordsFrom_eq Place.outside_between, more.wordsFrom_eq,
        Place.read, List.nil_append]

theorem wordsFrom_between_blank (h : isSeparating c = true) :
    wordsFrom .between (c :: rest) = wordsFrom .between rest := by
  obtain rfl | rfl | rfl := isSeparating_iff.mp h <;> rfl

theorem wordsFrom_bare_blank (h : isSeparating c = true) :
    wordsFrom (.bare w) (c :: rest) = (wordsFrom .between rest).map (w :: ·) := by
  obtain rfl | rfl | rfl := isSeparating_iff.mp h <;> rfl

/-- **The reader follows the rules.** -/
theorem Line.wordsFrom_eq (h : Line cs ws) : wordsFrom .between cs = some ws := by
  induction h with
  | nil => rfl
  | blank h _ ih => rw [wordsFrom_between_blank h, ih]
  | continued _ ih => rw [wordsFrom_continued Place.outside_between, ih]
  | @last cs w h =>
      have whole : wordsFrom .between (cs ++ []) = wordsFrom (.bare w) [] := h.wordsFrom_eq
      rw [← List.append_nil cs, whole]
      rfl
  | word h ends _ ih => rw [h.wordsFrom_eq, wordsFrom_bare_blank ends, ih, Option.map_some]

theorem Reads.splitWords?_eq {text : String} {words : List String} (h : Reads text words) :
    splitWords? text = some words := by
  have : String.ofList ∘ String.toList = id := funext fun _ => String.ofList_toList
  rw [splitWords?, h.wordsFrom_eq, Option.map_some, List.map_map, this, List.map_id]

/-- A text is read in one way at most. -/
theorem Reads.unique {text : String} {words words' : List String} (h : Reads text words)
    (h' : Reads text words') : words = words' :=
  Option.some.inj (h.splitWords?_eq.symm.trans h'.splitWords?_eq)

/-- The rest of a word, what it stands for, and the words after it. -/
inductive Tail : List Char → List Char → List (List Char) → Prop
  | last {cs v : List Char} (h : Fragments cs v) : Tail cs v []
  | blank {c : Char} {cs ds v : List Char} {ws : List (List Char)} (h : Fragments cs v)
      (ends : isSeparating c = true) (rest : Line ds ws) : Tail (cs ++ c :: ds) v ws

theorem Tail.continued (t : Tail ds v ws) : Tail ('\\' :: '\n' :: ds) v ws := by
  cases t with
  | last more => exact .last (.continued more)
  | blank more ends rest => exact .blank (.continued more) ends rest

/-- What is read from a place on, by the rules. -/
inductive Follows : Place → List Char → List (List Char) → Prop
  | between {cs : List Char} {ws : List (List Char)} (h : Line cs ws) : Follows .between cs ws
  | bare {r cs v : List Char} {ws : List (List Char)} (t : Tail cs v ws) :
      Follows (.bare r) cs ((r ++ v) :: ws)
  | single {r q cs v : List Char} {ws : List (List Char)} (h : '\'' ∉ q) (t : Tail cs v ws) :
      Follows (.single r) (q ++ '\'' :: cs) ((r ++ q ++ v) :: ws)
  | double {r q vs cs v : List Char} {ws : List (List Char)} (h : Within q vs) (t : Tail cs v ws) :
      Follows (.double r) (q ++ '"' :: cs) ((r ++ vs ++ v) :: ws)

namespace Follows

theorem continued (hp : p.Outside) (f : Follows p rest ws) :
    Follows p ('\\' :: '\n' :: rest) ws := by
  cases f with
  | between h => exact .between h.continued
  | bare t => exact .bare t.continued
  | single h t | double h t => cases hp

/-- Between double quotes, what stands in front is read first. -/
theorem within (cs vs : List Char) (step : ∀ {q v}, Within q v → Within (cs ++ q) (vs ++ v))
    (f : Follows (.double (r ++ vs)) rest ws) : Follows (.double r) (cs ++ rest) ws := by
  cases f with
  | @double r' q v' ds v ws h t =>
      simpa using Follows.double (step h) t

theorem blank (hc : isSeparating c = true) (f : Follows .between rest ws) :
    Follows .between (c :: rest) ws := by
  cases f with
  | between h => exact .between (.blank hc h)

end Follows

/-- The text does not end in a backslash. -/
def Closed (cs : List Char) : Prop := cs.getLast? ≠ some '\\'

theorem Closed.tail (h : Closed (c :: cs)) : Closed cs := by
  cases cs with
  | nil => simp [Closed]
  | cons d ds => simpa [Closed] using h

/-- The characters with a meaning outside quotes. -/
def marks : List Char := " \t\n".toList ++ Char.ofNat 0x60 :: "|&;<>()$*?[#~'\"\\".toList

end CompilerRunner.Shell
