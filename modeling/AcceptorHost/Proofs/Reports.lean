import AcceptorHost.Proofs.Watch

/-!
# The line about the device

The watch looks at the device after every wait that ends, and prints one line about it once
its serial number is known.  Looking changes nothing, so the loop goes on as if nobody watched
it: the console shows what the loop shows, with the line in between just where the first wait
ends after which the serial number is known, if it was asked for (`Session.watch_then`).
-/

namespace AcceptorHost

namespace HexText

/-- Pairs of digits stand on one line. -/
theorem one_line_upperPair
    (b : UInt8) :
    '\n' ∉ upperPair b ∧ '\n' ∉ lowerPair b := by
  have hdigits : ∀ k : Fin 16, Hex.upperDigit k.val ≠ '\n' ∧ Hex.lowerDigit k.val ≠ '\n' := by
    decide
  have hhigh : b.toNat / 16 < 16 := by
    have hbyte := b.toNat_lt
    omega
  have hlow : b.toNat % 16 < 16 := Nat.mod_lt _ (by decide)
  obtain ⟨hupper, hlower⟩ := hdigits ⟨_, hhigh⟩
  obtain ⟨hupper', hlower'⟩ := hdigits ⟨_, hlow⟩
  simp only [upperPair, lowerPair, List.mem_cons, List.not_mem_nil, or_false, not_or]
  exact ⟨⟨Ne.symm hupper, Ne.symm hupper'⟩, Ne.symm hlower, Ne.symm hlower'⟩

theorem one_line_spaced
    (bs : List UInt8) :
    '\n' ∉ (spaced bs).toList := by
  rw [spaced, String.toList_ofList]
  induction bs with
  | nil =>
      exact List.not_mem_nil
  | cons b rest ih =>
      cases rest with
      | nil =>
          exact (one_line_upperPair b).1
      | cons c more =>
          have hspaced : spacedChars (b :: c :: more) =
              upperPair b ++ ' ' :: spacedChars (c :: more) := rfl
          rw [hspaced, List.mem_append, List.mem_cons, not_or, not_or]
          exact ⟨(one_line_upperPair b).1, by decide, ih⟩

end HexText

namespace Session

variable {σ : Type} {port : Port σ}

/-- The line about the device stands on one line if the serial number does. -/
theorem one_line_statusLine
    (r : Record)
    {serialNumber : String}
    (h : '\n' ∉ serialNumber.toList) :
    '\n' ∉ (statusLine r serialNumber).toList := by
  have hmodel : '\n' ∉ r.modelText.toList := by
    unfold Record.modelText
    split
    · decide
    · exact HexText.one_line_spaced _
  have hfirmware : '\n' ∉ r.firmwareText.toList := by
    unfold Record.firmwareText
    split
    case h_1 => decide
    case h_2 b _ =>
      have hpair : '\n' ∉ (HexText.compact [b]).toList := by
        rw [HexText.compact, String.toList_ofList, List.flatMap_singleton]
        exact (HexText.one_line_upperPair b).2
      rw [String.toList_append, List.mem_append, not_or]
      exact ⟨by decide, hpair⟩
  unfold statusLine
  simp only [String.toList_append, List.mem_append, not_or]
  exact ⟨⟨⟨⟨⟨by decide, hmodel⟩, by decide⟩, hfirmware⟩, by decide⟩, h⟩

/-- The line about the device of a world, if it was asked for and the serial number is known. -/
def status? (asked : Bool) (w : World σ EventPrinter) : Option String :=
  if asked then w.courier.record.serialNumber.map (statusLine w.courier.record) else none

/-- A look at the device prints the line that there is to print, unless it was printed before. -/
theorem report_eq
    (asked reported : Bool)
    {w : World σ EventPrinter}
    (hw : Legible w) :
    report asked reported w =
      ⟨if reported then [] else (status? asked w).toList.map .printed,
        .ok (reported || (status? asked w).isSome), w⟩ := by
  have hask : (World.ask Courier.record w).result = .ok w.courier.record := rfl
  rw [report, Run.bind_of_ok hask]
  cases hserial : w.courier.record.serialNumber with
  | none =>
      simp only [hserial, status?]
      cases asked <;> cases reported <;> rfl
  | some text =>
      obtain ⟨unsigned, bs, htext⟩ := hw text hserial
      obtain ⟨hfilled, hline⟩ := SerialNumber.one_line_of_render htext
      have hprint : print (statusLine w.courier.record text) w =
          ⟨[.printed (statusLine w.courier.record text)], .ok (), w⟩ := by
        rw [print_eq, Text.splitOn_newline (one_line_statusLine _ hline)]
        rfl
      have hok : (print (statusLine w.courier.record text) w).result = .ok () := by rw [hprint]
      have hsay : (do
          print (statusLine w.courier.record text)
          Run.give true : Run (World σ EventPrinter) Bool) w =
            ⟨[.printed (statusLine w.courier.record text)], .ok true, w⟩ := by
        rw [Run.bind_of_ok hok, hprint]
        rfl
      simp only [hserial, status?, hfilled]
      cases asked with
      | false =>
          cases reported <;> rfl
      | true =>
          cases reported with
          | true =>
              rfl
          | false =>
              exact hsay

/-! ## The watch -/

/-- How many passes the loop has made when each of the waits ends. -/
def waitEnds : List Nat → List Nat
  | [] => []
  | n :: rest => n :: (waitEnds rest).map (n + ·)

/-- The first end of a wait at which there is a line about the device, and that line. -/
def reported? (port : Port σ) (asked : Bool) (ends : List Nat) (w : World σ EventPrinter) :
    Option (Nat × String) :=
  ends.findSome? fun k => (status? asked (passes port k w).state).map (k, ·)

/-- What so many passes show, with the line about the device where the first wait ends at which
there is one. -/
def shown (port : Port σ) (asked : Bool) (ends : List Nat) (total : Nat)
    (w : World σ EventPrinter) : List String :=
  match reported? port asked ends w with
  | none => (passes port total w).trace.lines
  | some (k, line) =>
      (passes port k w).trace.lines
        ++ line :: (passes port (total - k) (passes port k w).state).trace.lines

/-- What the loop shows in passes after others. -/
theorem lines_passes_add
    {m : Nat}
    (n : Nat)
    {w u : World σ EventPrinter}
    {t : Trace}
    (hpasses : passes port m w = ⟨t, .ok (), u⟩) :
    (passes port (m + n) w).trace.lines = t.lines ++ (passes port n u).trace.lines ∧
      (passes port (m + n) w).state = (passes port n u).state := by
  have hok : (passes port m w).result = .ok () := by rw [hpasses]
  rw [passes_add, Run.bind_of_ok hok, hpasses]
  exact ⟨Trace.lines_append .., rfl⟩

/-- Where a wait ends without a line, what is shown goes on behind it. -/
theorem shown_cons_of_none
    {asked : Bool}
    {n : Nat}
    {w u : World σ EventPrinter}
    {t : Trace}
    (hpasses : passes port n w = ⟨t, .ok (), u⟩)
    (hnone : status? asked u = none)
    (ends : List Nat)
    (total : Nat) :
    shown port asked (n :: ends.map (n + ·)) (n + total) w =
      t.lines ++ shown port asked ends total u := by
  have hlater (k : Nat) := lines_passes_add k hpasses
  have hreported : reported? port asked (n :: ends.map (n + ·)) w =
      (reported? port asked ends u).map fun r => (n + r.1, r.2) := by
    have hfirst : (status? asked (passes port n w).state).map (n, ·) = none := by
      rw [hpasses, hnone]
      rfl
    unfold reported?
    rw [List.findSome?_cons, hfirst]
    simp only [List.findSome?_map, List.map_findSome?, Function.comp_def, (hlater _).2,
      Option.map_map]
  unfold shown
  rw [hreported]
  cases reported? port asked ends u with
  | none => exact (hlater total).1
  | some r =>
      obtain ⟨k, line⟩ := r
      simp only [Option.map_some, Nat.add_sub_add_left, (hlater k).1, (hlater k).2,
        List.append_assoc]

/-- What a watch does in a wait that ends comes before what it does in the others. -/
theorem watch_cons_bind
    {α : Type}
    (asked reported : Bool)
    (n : Nat)
    (rest : List Nat)
    (next : Run (World σ EventPrinter) α)
    (w : World σ EventPrinter) :
    let q := (beat port asked n reported >>= fun later =>
      watch port asked rest later >>= fun _ => next) w
    (watch port asked (n :: rest) reported >>= fun _ => next) w =
      ⟨.watched pace :: q.trace, q.result, q.state⟩ := by
  rw [watch, Run.bind_assoc, ← Run.bind_assoc (beat port asked n reported)]
  rfl

/-- The watch over waits that end, and the passes of the wait that is interrupted. -/
theorem watch_then
    (hport : port.Yields)
    (asked : Bool)
    (ended : List Nat)
    (interrupted : Nat)
    (reported : Bool)
    {w : World σ EventPrinter}
    (hw : Watched port w) :
    let r := (watch port asked ended reported >>= fun _ =>
      Run.emit (.watched pace) >>= fun _ => passes port interrupted) w
    let total := ended.sum + interrupted
    r.result = .ok () ∧ r.state = (passes port total w).state ∧
      r.trace.lines =
        if reported then (passes port total w).trace.lines
        else shown port asked (waitEnds ended) total w := by
  induction ended generalizing w reported with
  | nil =>
      have hlast : (watch port asked [] reported >>= fun _ =>
          Run.emit (.watched pace) >>= fun _ => passes port interrupted) w =
            ⟨.watched pace :: (passes port interrupted w).trace,
              (passes port interrupted w).result, (passes port interrupted w).state⟩ := rfl
      obtain ⟨t, v, hpasses, -⟩ := passes_watched hport interrupted hw
      rw [hlast, List.sum_nil, Nat.zero_add]
      refine ⟨by rw [hpasses], rfl, ?_⟩
      change (passes port interrupted w).trace.lines = _
      rw [waitEnds, shown, reported?, List.findSome?_nil, ite_self]
  | cons n rest ih =>
      obtain ⟨t, u, hpasses, hu⟩ := passes_watched hport n hw
      let look : Trace := if reported then [] else (status? asked u).toList.map .printed
      let later : Bool := reported || (status? asked u).isSome
      have hbeat : beat port asked n reported w = ⟨t ++ look, .ok later, u⟩ := by
        have hok : (passes port n w).result = .ok () := by rw [hpasses]
        rw [beat, Run.bind_of_ok hok, hpasses, report_eq asked reported hu.legible]
      have hok : (beat port asked n reported w).result = .ok later := by rw [hbeat]
      obtain ⟨hresult, hstate, hlines⟩ := ih later hu
      obtain ⟨hlater, hgoes⟩ := lines_passes_add (rest.sum + interrupted) hpasses
      rw [watch_cons_bind, Run.bind_of_ok hok, hbeat, List.sum_cons, Nat.add_assoc]
      refine ⟨hresult, hstate.trans hgoes.symm, ?_⟩
      change Trace.lines (t ++ look ++ _) = _
      rw [Trace.lines_append, Trace.lines_append, hlines]
      cases reported with
      | true =>
          change t.lines ++ [] ++ _ = _
          rw [List.append_nil]
          exact hlater.symm
      | false =>
          cases hstatus : status? asked u with
          | none =>
              have hlook : look = [] := by simp [look, hstatus]
              have hsilent : later = false := by simp [later, hstatus]
              rw [hlook, hsilent]
              change t.lines ++ [] ++ _ = _
              rw [List.append_nil]
              exact (shown_cons_of_none hpasses hstatus _ _).symm
          | some line =>
              have hlook : look = [.printed line] := by simp [look, hstatus]
              have hspoken : later = true := by simp [later, hstatus]
              have hreported : reported? port asked (waitEnds (n :: rest)) w = some (n, line) := by
                rw [reported?, waitEnds, List.findSome?_cons, hpasses, hstatus]
                rfl
              rw [hlook, hspoken]
              simp only [shown, hreported, hpasses, Nat.add_sub_cancel_left]
              simp [Trace.lines, Entry.line?]

end Session

end AcceptorHost
