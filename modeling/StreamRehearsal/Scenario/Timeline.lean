import StreamRehearsal.Scenario.Operation

/-! # Timelines

The timeline of a scenario says which segments are held back or failed; a segment that it does not
name is served at once.

* `SegmentAction` is what happens to one segment index, and `Timeline` lists them in the order in
  which the scenario first mentions them.
* `Timeline.ofOperations` walks the operations with a cursor, the index of the segment that comes
  next.  A startup always holds back segment zero.  A rebuffer holds back the cursor's segment and
  does not use it up.  A failure uses up the cursor's segment, and joins the action that was listed
  last if that one is about the same segment.
* Delays on one segment add up, clipped to the largest count; a delay of zero leaves no trace. -/

namespace StreamRehearsal

/-- What happens to one segment. -/
structure SegmentAction where
  /-- The segment. -/
  index : UInt64
  /-- The seconds for which it is held back. -/
  delay : Option UInt64
  /-- The status code that it is failed with. -/
  code : Option UInt16
  deriving DecidableEq, Repr

namespace SegmentAction

/-- Holds a segment back. -/
def delayed (index delay : UInt64) : SegmentAction := ⟨index, some delay, none⟩

/-- Fails a segment. -/
def failed (index : UInt64) (code : UInt16) : SegmentAction := ⟨index, none, some code⟩

/-- The same action with a longer delay. -/
def prolong (a : SegmentAction) (secs : UInt64) : SegmentAction :=
  { a with delay := some (clip ((a.delay.getD 0).toNat + secs.toNat)) }

@[simp] theorem index_delayed (i d : UInt64) : (delayed i d).index = i := rfl
@[simp] theorem index_failed (i : UInt64) (c : UInt16) : (failed i c).index = i := rfl
@[simp] theorem index_prolong (a : SegmentAction) (d : UInt64) : (a.prolong d).index = a.index :=
  rfl

end SegmentAction

/-- What happens to which segment, in the order of first mention. -/
structure Timeline where
  actions : List SegmentAction
  deriving DecidableEq, Repr

namespace Timeline

/-- The timeline that leaves every segment alone. -/
def empty : Timeline := ⟨[]⟩

/-- The first action about a segment. -/
def get? (t : Timeline) (index : UInt64) : Option SegmentAction :=
  t.actions.find? (fun a => a.index == index)

@[simp] theorem get?_empty (index : UInt64) : empty.get? index = none := rfl

theorem get?_cons (a : SegmentAction) (rest : List SegmentAction) (index : UInt64) :
    get? ⟨a :: rest⟩ index = if a.index = index then some a else get? ⟨rest⟩ index := by
  by_cases h : a.index = index <;> simp [get?, h]

theorem index_of_get?_eq_some {t : Timeline} {index : UInt64} {a : SegmentAction}
    (h : t.get? index = some a) : a.index = index := by
  simpa using List.find?_some h

/-- The number of actions. -/
def size (t : Timeline) : Nat := t.actions.length

/-- The highest segment that an action is about. -/
def maxIndex? (t : Timeline) : Option UInt64 := (t.actions.map SegmentAction.index).max?

/-! ### Delays -/

/-- Prolongs the first action about a segment, or lists a new one at the end. -/
def holdBack (index secs : UInt64) : List SegmentAction → List SegmentAction
  | [] => [SegmentAction.delayed index secs]
  | a :: rest => if a.index = index then a.prolong secs :: rest else a :: holdBack index secs rest

/-- Adds a delay to a segment; a delay of zero leaves no trace. -/
def addDelay (t : Timeline) (index secs : UInt64) : Timeline :=
  if secs = 0 then t else ⟨holdBack index secs t.actions⟩

theorem get?_holdBack_self (index secs : UInt64) (actions : List SegmentAction) :
    get? ⟨holdBack index secs actions⟩ index =
      some (((get? ⟨actions⟩ index).map (·.prolong secs)).getD
        (SegmentAction.delayed index secs)) := by
  induction actions with
  | nil => simp [holdBack, get?]
  | cons a rest ih => by_cases h : a.index = index <;> simp [holdBack, get?_cons, h, ih]

theorem get?_holdBack_of_ne {index other : UInt64} (h : index ≠ other) (secs : UInt64)
    (actions : List SegmentAction) :
    get? ⟨holdBack index secs actions⟩ other = get? ⟨actions⟩ other := by
  induction actions with
  | nil => simp [holdBack, get?, h]
  | cons a rest ih =>
    by_cases ha : a.index = index
    · simp [holdBack, get?_cons, ha, h]
    · simp only [holdBack, if_neg ha, get?_cons, ih]

@[simp] theorem addDelay_zero (t : Timeline) (index : UInt64) : t.addDelay index 0 = t := rfl

theorem get?_addDelay_self {secs : UInt64} (h : secs ≠ 0) (t : Timeline) (index : UInt64) :
    (t.addDelay index secs).get? index =
      some (((t.get? index).map (·.prolong secs)).getD (SegmentAction.delayed index secs)) := by
  unfold addDelay
  rw [if_neg h]
  exact get?_holdBack_self index secs t.actions

/-- A delay changes nothing about other segments. -/
theorem get?_addDelay_of_ne {index other : UInt64} (h : index ≠ other) (t : Timeline)
    (secs : UInt64) : (t.addDelay index secs).get? other = t.get? other := by
  unfold addDelay
  split
  · rfl
  · exact get?_holdBack_of_ne h secs t.actions

/-! ### Failures -/

/-- Adds a status code to the action that was listed last, if it is about this segment, or lists a
new one after it. -/
def fail (index : UInt64) (code : UInt16) : List SegmentAction → List SegmentAction
  | [] => [SegmentAction.failed index code]
  | [a] =>
    if a.index = index then [{ a with code := some code }]
    else [a, SegmentAction.failed index code]
  | a :: b :: rest => a :: fail index code (b :: rest)

/-- Adds a failure of a segment. -/
def addFailure (t : Timeline) (index : UInt64) (code : UInt16) : Timeline :=
  ⟨fail index code t.actions⟩

theorem get?_fail_of_ne {index other : UInt64} (h : index ≠ other) (code : UInt16)
    (actions : List SegmentAction) :
    get? ⟨fail index code actions⟩ other = get? ⟨actions⟩ other := by
  fun_induction fail index code actions with
  | case1 => simp [get?, h]
  | case2 a ha => simp [get?_cons, ha, h]
  | case3 a => by_cases ho : a.index = other <;> simp [get?, ho, h]
  | case4 a b rest ih => simp only [get?_cons a, ih]

/-- A failure changes nothing about other segments. -/
theorem get?_addFailure_of_ne {index other : UInt64} (h : index ≠ other) (t : Timeline)
    (code : UInt16) : (t.addFailure index code).get? other = t.get? other :=
  get?_fail_of_ne h code t.actions

/-! ### From operations -/

/-- The timeline after one more operation, with the cursor before it. -/
def record (t : Timeline) (cursor : UInt64) : Operation → Timeline
  | .startup delay => t.addDelay 0 delay
  | .playback _ => t
  | .rebuffer delay => t.addDelay cursor delay
  | .failure code => t.addFailure cursor code

/-- The cursor after an operation. -/
def advance (cursor : UInt64) (op : Operation) : UInt64 := clip (cursor.toNat + op.slots)

/-- The timeline after more operations, from a timeline and a cursor. -/
def extend (t : Timeline) (cursor : UInt64) : List Operation → Timeline
  | [] => t
  | op :: ops => extend (t.record cursor op) (advance cursor op) ops

/-- The timeline of a list of operations. -/
def ofOperations (ops : List Operation) : Timeline := empty.extend 0 ops

@[simp] theorem extend_nil (t : Timeline) (cursor : UInt64) : t.extend cursor [] = t := rfl

@[simp] theorem extend_cons (t : Timeline) (cursor : UInt64) (op : Operation)
    (ops : List Operation) :
    t.extend cursor (op :: ops) = (t.record cursor op).extend (advance cursor op) ops := rfl

theorem extend_append (t : Timeline) (cursor : UInt64) (xs ys : List Operation) :
    t.extend cursor (xs ++ ys) = (t.extend cursor xs).extend (xs.foldl advance cursor) ys := by
  induction xs generalizing t cursor with
  | nil => rfl
  | cons op xs ih => simp [ih]

end Timeline

end StreamRehearsal
