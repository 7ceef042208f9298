import CompilerRunner.Calendar
import CompilerRunner.Decimal.Binary

/-!
# Value

Configuration data before anything is known about it: what a settings file, a caller or a called
function may hold.  A mapping may have keys of any kind; two keys are one when `sameKey` says so,
which identifies numbers of equal value whatever their kind.  `Entries.insert` keeps the first of
such keys and the last value.  A collection that contains itself is a `knot` (`Value.Knot`).
-/

namespace CompilerRunner

/-- A value of untyped data.  A knot is the collection in its cell `root`; inside the cells,
`again n` stands for the collection in cell `n`. -/
inductive Value where
  | null
  | bool (b : Bool)
  | integer (n : Int)
  | float (x : Float)
  | text (s : String)
  | bytes (bs : List UInt8)
  | list (items : List Value)
  | tuple (items : List Value)
  | set (items : List Value)
  | mapping (entries : List (Value × Value))
  | date (d : Date)
  | moment (t : Moment)
  | knot (cells : List (Nat × Value)) (root : Nat)
  | again (cell : Nat)
deriving Inhabited

namespace Value

/-- The whole number that a key stands for: truth values count as 0 and 1, and a float that is a
whole number as that number. -/
def wholeNumber? : Value → Option Int
  | .bool b => some (if b then 1 else 0)
  | .integer n => some n
  | .float x => Decimal.integer? x
  | _ => none

/-- Two values that are no collections are the same key. -/
def sameScalar (v w : Value) : Bool :=
  match v, w with
  | .null, .null => true
  | .text s, .text t => s == t
  | .bytes s, .bytes t => s == t
  | .date d, .date e => d == e
  | .moment s, .moment t => s.same t
  | .float x, .float y => x == y
  | v, w =>
    match v.wholeNumber?, w.wholeNumber? with
    | some m, some n => m == n
    | _, _ => false

mutual

/-- The two values are the same key of a mapping. -/
def sameKey : Value → Value → Bool
  | .tuple vs, .tuple ws => sameKeys vs ws
  | v, w => sameScalar v w

/-- The two lists hold the same keys, place by place. -/
def sameKeys : List Value → List Value → Bool
  | [], [] => true
  | v :: vs, w :: ws => sameKey v w && sameKeys vs ws
  | _, _ => false

end

theorem sameKey_text {v : Value} {s : String} : v.sameKey (.text s) = true ↔ v = .text s := by
  cases v <;> simp [sameKey, sameScalar, wholeNumber?]

theorem eq_text_of_sameKey {v : Value} {s : String} (h : (Value.text s).sameKey v = true) :
    v = .text s := by
  cases v <;> simp_all [sameKey, sameScalar, wholeNumber?]

mutual

/-- Only what cannot change may be a key: lists, sets and mappings may not. -/
def isKey : Value → Bool
  | .list _ | .set _ | .mapping _ | .knot _ _ | .again _ => false
  | .tuple items => areKeys items
  | _ => true

/-- Each of the values may be a key. -/
def areKeys : List Value → Bool
  | [] => true
  | v :: vs => isKey v && areKeys vs

end

end Value

/-- The entries of a mapping, in order. -/
abbrev Entries := List (Value × Value)

namespace Entries

/-- The entries with `v` at `k`: a key that is already there keeps its place and its form. -/
def insert : Entries → Value → Value → Entries
  | [], k, v => [(k, v)]
  | (k', v') :: rest, k, v =>
    if k'.sameKey k then (k', v) :: rest else (k', v') :: insert rest k v

/-- The entries inserted one after another. -/
def ofList (es : List (Value × Value)) : Entries :=
  es.foldl (fun acc e => acc.insert e.1 e.2) []

/-- The value at a key. -/
def get? : Entries → Value → Option Value
  | [], _ => none
  | (k', v) :: rest, k => if k'.sameKey k then some v else get? rest k

/-- The value at a key that is a text. -/
def field? (es : Entries) (name : String) : Option Value := es.get? (.text name)

/-- The entries with those of `upper` inserted one after another. -/
def overlay (lower upper : Entries) : Entries :=
  upper.foldl (fun acc e => acc.insert e.1 e.2) lower

theorem field?_insert (es : Entries) (k v : Value) (name : String) :
    (es.insert k v).field? name = if k.sameKey (.text name) then some v else es.field? name := by
  unfold field?
  induction es with
  | nil => rfl
  | cons e rest ih =>
    obtain ⟨k', w⟩ := e
    by_cases hk : k'.sameKey k = true
    · have : k'.sameKey (.text name) = k.sameKey (.text name) := by
        by_cases h : k = .text name
        · rw [h, Value.sameKey_text.2 rfl, ← h, hk]
        · by_cases h' : k' = .text name
          · exact absurd (Value.eq_text_of_sameKey (h' ▸ hk)) h
          · rw [Bool.eq_false_iff.2 (mt Value.sameKey_text.1 h),
              Bool.eq_false_iff.2 (mt Value.sameKey_text.1 h')]
      cases hn : k.sameKey (.text name) <;> simp [insert, get?, hk, this, hn]
    · by_cases h' : k' = .text name
      · have : k ≠ .text name := fun h => hk (h ▸ Value.sameKey_text.2 h')
        simp [insert, get?, hk, Value.sameKey_text.2 h', mt Value.sameKey_text.1 this]
      · simp [insert, get?, hk, mt Value.sameKey_text.1 h', ih]

/-- Of several entries under one name the last decides; a name that `upper` lacks is looked up in
`lower`. -/
theorem field?_overlay (lower upper : Entries) (name : String) :
    (lower.overlay upper).field? name = (field? upper.reverse name).or (lower.field? name) := by
  unfold overlay
  induction upper generalizing lower with
  | nil => rfl
  | cons e rest ih =>
    have append (es : Entries) : field? (es ++ [e]) name =
        (es.field? name).or (if e.1.sameKey (.text name) then some e.2 else none) := by
      unfold field?
      induction es with
      | nil => rfl
      | cons f r ihr => cases h : f.1.sameKey (.text name) <;> simp [get?, h, ihr]
    simp only [List.foldl_cons, ih, field?_insert, List.reverse_cons, append]
    cases e.1.sameKey (.text name) <;> simp

end Entries

end CompilerRunner
