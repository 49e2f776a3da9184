import AcceptorHost.Courier.Loop

/-!
# What the log tells of the loop

The loop's thread logs that it has started and that it has ended, a caller that asks it to
stop logs that too, and a thread that dies leaves its cause.  These are the marks of the loop
in a trace.  A text that begins with another letter than the marks do is none of them, and so
nothing is that a tick logs, whatever the port and the acceptor contribute to its texts.

In the same way the warning of a reply that holds no serial number is told from all other
records: they are inert.
-/

namespace AcceptorHost

/-- What a log record tells of the loop. -/
inductive LoopMark where
  /-- A thread has begun its loop. -/
  | started
  /-- Somebody asks the loop to stop. -/
  | stopAsked
  /-- A thread has come to the end of its loop. -/
  | ended
  /-- A thread has died of what ended its loop. -/
  | died
  deriving DecidableEq, Repr

/-- How the record of a thread begins that has begun its loop. -/
def LoopMark.beginning : List Char := "Courier started on ".toList

/-- The mark of a log record. -/
def LoopMark.ofLog? (level : Int) (text : String) : Option LoopMark :=
  if level = Level.info then
    if beginning.isPrefixOf text.toList then some .started
    else if text = "Courier stopped" then some .ended
    else none
  else if level = Level.debug then
    if text = "Stopping courier thread..." then some .stopAsked else none
  else none

namespace Entry

/-- The mark of the loop that an entry leaves. -/
def loopMark? : Entry → Option LoopMark
  | .log level text => LoopMark.ofLog? level text
  | .threadDied _ => some .died
  | _ => none

/-- A text that begins with another letter than the marks is none of them. -/
theorem loopMark?_of_head
    {level : Int}
    {text : String}
    {c : Char}
    (hhead : text.toList.head? = some c)
    (hc : c ≠ 'C')
    (hs : c ≠ 'S') :
    (Entry.log level text).loopMark? = none := by
  have hother (mark : String) (d : Char) (hmark : mark.toList.head? = some d) (hd : c ≠ d) :
      text ≠ mark := by
    rintro rfl
    rw [hhead] at hmark
    exact hd (Option.some.inj hmark)
  have hstarted : LoopMark.beginning.isPrefixOf text.toList = false := by
    obtain ⟨rest, hbeginning⟩ : ∃ rest, LoopMark.beginning = 'C' :: rest := by
      exact ⟨"ourier started on ".toList, by decide +kernel⟩
    rw [hbeginning]
    cases htext : text.toList with
    | nil =>
        rfl
    | cons d more =>
        rw [htext] at hhead
        cases hhead
        rw [List.isPrefixOf_cons_cons, beq_false_of_ne (Ne.symm hc), Bool.false_and]
  have hended := hother "Courier stopped" 'C' (by decide +kernel) hc
  have hasked := hother "Stopping courier thread..." 'S' (by decide +kernel) hs
  change LoopMark.ofLog? level text = none
  unfold LoopMark.ofLog?
  rw [hstarted, if_neg Bool.false_ne_true, if_neg hended, if_neg hasked, ite_self, ite_self]

/-- Records of other levels than those of the loop tell nothing of it. -/
theorem loopMark?_of_level
    {level : Int}
    (text : String)
    (hinfo : level ≠ Level.info)
    (hdebug : level ≠ Level.debug) :
    (Entry.log level text).loopMark? = none := by
  change LoopMark.ofLog? level text = none
  unfold LoopMark.ofLog?
  rw [if_neg hinfo, if_neg hdebug]

theorem loopMark?_warning
    (text : String) :
    (Entry.log Level.warning text).loopMark? = none :=
  loopMark?_of_level text (by decide) (by decide)

theorem loopMark?_error
    (text : String) :
    (Entry.log Level.error text).loopMark? = none :=
  loopMark?_of_level text (by decide) (by decide)

theorem compact_head
    (fields : List (String × Value)) :
    (Json.compact (.record fields)).toList.head? = some '{' := by
  unfold Json.compact
  rw [String.toList_append, String.toList_append]
  rfl

/-- A line of JSON fields is no mark. -/
theorem loopMark?_fields
    (level : Int)
    (fields : List (String × Value)) :
    (Entry.log level (Json.compact (.record fields))).loopMark? = none :=
  loopMark?_of_head (compact_head fields) (by decide) (by decide)

/-- The record of a thread that has begun its loop is its mark. -/
theorem loopMark?_launch
    (name text : String) :
    (Entry.log Level.info
      ("Courier started on " ++ name ++ " (poll " ++ text ++ " ms)")).loopMark? =
        some .started := by
  have hbegins : LoopMark.beginning.isPrefixOf
      ("Courier started on " ++ name ++ " (poll " ++ text ++ " ms)").toList = true := by
    simp only [String.toList_append, List.append_assoc]
    exact List.isPrefixOf_iff_prefix.mpr (List.prefix_append _ _)
  change LoopMark.ofLog? Level.info _ = _
  unfold LoopMark.ofLog?
  rw [if_pos rfl, if_pos hbegins]

theorem loopMark?_stopping :
    (Entry.log Level.debug "Stopping courier thread...").loopMark? = some .stopAsked := by
  decide +kernel

theorem loopMark?_stopped :
    (Entry.log Level.info "Courier stopped").loopMark? = some .ended := by
  decide +kernel

/-- That the end of the loop is known is no mark of it. -/
theorem loopMark?_confirmed :
    (Entry.log Level.debug "Courier thread stopped").loopMark? = none := by
  decide +kernel

/-! ## Refused serial numbers -/

/-- How the warning begins of a reply that holds no serial number. -/
def refusal : String := "Invalid serial number response: "

/-- An entry is no call, tells listeners nothing and warns of no reply without a serial number. -/
def isInert : Entry → Bool
  | .port _ | .serial _ | .heard _ _ => false
  | .log level text => !(level == Level.warning && refusal.toList.isPrefixOf text.toList)
  | _ => true

/-- A record that begins with another letter than the warning does is inert. -/
theorem isInert_of_head
    {level : Int}
    {text : String}
    {c : Char}
    (hhead : text.toList.head? = some c)
    (hc : c ≠ 'I') :
    (Entry.log level text).isInert = true := by
  obtain ⟨rest, hrefusal⟩ : ∃ rest, refusal.toList = 'I' :: rest :=
    ⟨"nvalid serial number response: ".toList, by decide +kernel⟩
  have hother : refusal.toList.isPrefixOf text.toList = false := by
    rw [hrefusal]
    cases htext : text.toList with
    | nil =>
        rfl
    | cons d more =>
        rw [htext] at hhead
        cases hhead
        rw [List.isPrefixOf_cons_cons, beq_false_of_ne (Ne.symm hc), Bool.false_and]
  simp [isInert, hother]

theorem isInert_fields
    (level : Int)
    (fields : List (String × Value)) :
    (Entry.log level (Json.compact (.record fields))).isInert = true :=
  isInert_of_head (compact_head fields) (by decide)

end Entry

/-- The marks of the loop in a trace. -/
def Trace.loopMarks (t : Trace) : List LoopMark := t.filterMap Entry.loopMark?

namespace Trace

@[simp] theorem loopMarks_append
    (t u : Trace) :
    (t ++ u).loopMarks = t.loopMarks ++ u.loopMarks :=
  List.filterMap_append

theorem loopMarks_cons_some
    {e : Entry}
    {m : LoopMark}
    (he : e.loopMark? = some m)
    (t : Trace) :
    loopMarks (e :: t) = m :: t.loopMarks :=
  List.filterMap_cons_some he

theorem loopMarks_cons_none
    {e : Entry}
    (he : e.loopMark? = none)
    (t : Trace) :
    loopMarks (e :: t) = t.loopMarks :=
  List.filterMap_cons_none he

end Trace

end AcceptorHost
