import AcceptorHost.Proofs.Replies
import Mathlib.Data.List.Basic

/-!
# The frames that are accepted

The exclusive or of all bytes of a frame is that of its start and its end byte,
because the checksum cancels what it covers, and the second byte declares the
length.  From the first, two accepted frames of one length differ in two places;
from the second, no accepted frame is a prefix of another.
-/

namespace AcceptorHost

namespace Frame

/-! ## The exclusive or -/

theorem checksum_cons
    (b : UInt8)
    (bs : List UInt8) :
    checksum (b :: bs) = b ^^^ checksum bs := by
  simp only [checksum, List.foldl_cons]
  rw [UInt8.xor_comm 0 b]
  exact List.foldl_assoc

theorem checksum_append
    (xs ys : List UInt8) :
    checksum (xs ++ ys) = checksum xs ^^^ checksum ys := by
  induction xs with
  | nil =>
      simp [checksum]
  | cons x xs ih =>
      rw [List.cons_append, checksum_cons, checksum_cons, ih, UInt8.xor_assoc]

/-- The checksum at the end of a frame cancels everything it covers. -/
theorem checksum_encode
    (kind : UInt8)
    (payload : List UInt8) :
    checksum (encode kind payload) = startByte ^^^ endByte := by
  have htail :
      checksum [endByte, checksum (body kind payload)] =
        endByte ^^^ checksum (body kind payload) := by
    simp [checksum]
  rw [encode, List.cons_append, checksum_cons, checksum_append, htail,
    UInt8.xor_comm endByte, ← UInt8.xor_assoc (checksum (body kind payload)),
    UInt8.xor_self, UInt8.zero_xor]

/-- Distinct lists of one length and one exclusive or differ in two places. -/
theorem two_places_of_checksum_eq
    {xs ys : List UInt8}
    (hlength : xs.length = ys.length)
    (hsum : checksum xs = checksum ys)
    (hne : xs ≠ ys) :
    ∃ i j, i < j ∧ j < xs.length ∧ xs[i]? ≠ ys[i]? ∧ xs[j]? ≠ ys[j]? := by
  induction xs generalizing ys with
  | nil =>
      exact absurd (List.length_eq_zero_iff.mp hlength.symm).symm hne
  | cons x xs ih =>
      obtain _ | ⟨y, ys⟩ := ys
      · exact absurd hlength (by simp)
      have htails : xs.length = ys.length := by simpa using hlength
      rw [checksum_cons, checksum_cons] at hsum
      by_cases hhead : x = y
      · -- The heads cancel, so the two places are in the tails.
        subst hhead
        obtain ⟨i, j, hij, hj, hi', hj'⟩ :=
          ih htails (UInt8.xor_right_inj x |>.mp hsum) (fun h => hne (by rw [h]))
        exact ⟨i + 1, j + 1, by omega, by simpa using hj, by simpa using hi', by simpa using hj'⟩
      · -- The first place is the head; equal tails would make the heads equal too.
        have hrest : xs ≠ ys := by
          rintro rfl
          exact hhead (UInt8.xor_left_inj _ |>.mp hsum)
        obtain ⟨j, hj⟩ : ∃ j, xs[j]? ≠ ys[j]? := by
          simpa [List.ext_getElem?_iff] using hrest
        have hlt : j < xs.length := by
          refine Nat.lt_of_not_le fun hge => hj ?_
          rw [List.getElem?_eq_none hge, List.getElem?_eq_none (htails ▸ hge)]
        exact ⟨0, j + 1, by omega, by simpa using hlt, by simpa using hhead, by simpa using hj⟩

/-! ## Judging a frame whose parts are known -/

theorem length_encode
    (kind : UInt8)
    (payload : List UInt8) :
    (encode kind payload).length = payload.length + overhead := by
  simp [encode, body, overhead]

theorem payloadPart_encode
    (kind : UInt8)
    (payload : List UInt8) :
    payloadPart (encode kind payload) = payload := by
  simp [payloadPart, encode, body]

/-- What is looked at when the parts of the received bytes are known. -/
theorem accepts_parts
    (start size kind : UInt8)
    (payload : List UInt8)
    (final sum : UInt8) :
    accepts (start :: size :: kind :: (payload ++ [final, sum])) = true ↔
      start = startByte ∧ final = endByte ∧ size.toNat = payload.length + overhead ∧
        sum = checksum (size :: kind :: payload) := by
  have hlength :
      (start :: size :: kind :: (payload ++ [final, sum])).length = payload.length + 5 := by
    simp
  have hfinal :
      (start :: size :: kind :: (payload ++ [final, sum]))[payload.length + 5 - 2]? =
        some final := by
    simp
  have hsum :
      (start :: size :: kind :: (payload ++ [final, sum]))[payload.length + 5 - 1]? =
        some sum := by
    simp
  have hchecked :
      checkedPart (start :: size :: kind :: (payload ++ [final, sum])) =
        size :: kind :: payload := by
    rw [checkedPart, hlength]
    simp
  rw [accepts, hchecked, hlength, hfinal, hsum]
  simp [overhead, and_assoc]

/-- Received bytes that can be looked at from both ends fall into the parts of a frame. -/
theorem exists_parts
    {x : List UInt8}
    (hlength : overhead ≤ x.length) :
    ∃ start size kind payload final sum,
      x = start :: size :: kind :: (payload ++ [final, sum]) := by
  obtain _ | ⟨start, _ | ⟨size, _ | ⟨kind, rest⟩⟩⟩ := x
  · simp [overhead] at hlength
  · simp [overhead] at hlength
  · simp [overhead] at hlength
  obtain ⟨final, sum, hlast⟩ : ∃ final sum, rest.drop (rest.length - 2) = [final, sum] := by
    refine List.length_eq_two.mp ?_
    simp only [List.length_cons, overhead] at hlength
    rw [List.length_drop]
    omega
  exact ⟨start, size, kind, rest.take (rest.length - 2), final, sum, by
    rw [← hlast, List.take_append_drop]⟩

/-- Exactly the frames of short payloads are accepted. -/
theorem accepts_iff_encode
    (x : List UInt8) :
    accepts x = true ↔
      ∃ kind payload, payload.length ≤ maxPayload ∧ x = encode kind payload := by
  constructor
  · intro haccepts
    have hlength : overhead ≤ x.length := by
      simp only [accepts, Bool.and_eq_true, decide_eq_true_eq] at haccepts
      exact haccepts.1.1.1.1
    obtain ⟨start, size, kind, payload, final, sum, rfl⟩ := exists_parts hlength
    obtain ⟨rfl, rfl, hsize, rfl⟩ := (accepts_parts start size kind payload final sum).mp haccepts
    have hshort : size.toNat < 256 := size.toNat_lt
    have hbyte : size = UInt8.ofNat (payload.length + overhead) := by
      rw [← hsize, UInt8.ofNat_toNat]
    refine ⟨kind, payload, ?_, ?_⟩
    · simp only [overhead, maxPayload] at hsize ⊢
      omega
    · rw [encode, body, ← hbyte]
      rfl
  · rintro ⟨kind, payload, hshort, rfl⟩
    refine (accepts_parts _ _ _ _ _ _).mpr ⟨rfl, rfl, ?_, rfl⟩
    simp only [overhead, maxPayload] at hshort ⊢
    exact UInt8.toNat_ofNat_of_lt' (show payload.length + 5 < 256 by omega)

/-- The type and the payload of a frame can be read off it. -/
theorem encode_inj
    {kind kind' : UInt8}
    {payload payload' : List UInt8}
    (h : encode kind payload = encode kind' payload') :
    kind = kind' ∧ payload = payload' := by
  simp only [encode, body, List.cons_append, List.cons.injEq] at h
  obtain ⟨-, -, hkind, hrest⟩ := h
  exact ⟨hkind, (List.append_inj' hrest rfl).1⟩

end Frame

/-! ## Frames and codecs -/

/-- Bytes of a short payload are framed. -/
theorem Codec.frame_of_bytes
    (c : Codec)
    (kind : UInt8)
    (payload : List UInt8)
    (hshort : payload.length ≤ Frame.maxPayload) :
    c.frame kind.toNat (payload.map fun b => (b.toNat : Int)) =
      .ok (c.stamped kind payload, c.turned) := by
  have hbyte : ∀ b : UInt8, isByte (b.toNat : Int) = true := by
    intro b
    have := b.toNat_lt
    simp only [isByte, decide_eq_true_eq]
    omega
  have hback : (payload.map fun b => (b.toNat : Int)).map (fun n => UInt8.ofNat n.toNat) =
      payload := by
    simp [Function.comp_def]
  rw [frame, if_pos (by simp [hbyte, hshort]), hback]
  simp

/-- What a codec frames while its acknowledgement bit is down are the frames of short payloads. -/
theorem Codec.exists_frame_iff
    (c : Codec)
    (hack : c.ack = false)
    (x : List UInt8) :
    (∃ kind data c', c.frame kind data = .ok (x, c')) ↔
      ∃ kind payload, payload.length ≤ Frame.maxPayload ∧ x = Frame.encode kind payload := by
  have hstamped : ∀ kind payload, c.stamped kind payload = Frame.encode kind payload := by
    intro kind payload
    simp [stamped, ackBit, hack]
  constructor
  · rintro ⟨kind, data, c', hframe⟩
    simp only [frame] at hframe
    split at hframe
    · rename_i hbytes
      simp only [Bool.and_eq_true, decide_eq_true_eq] at hbytes
      simp only [Except.ok.injEq, Prod.mk.injEq, hstamped] at hframe
      exact ⟨_, _, by simpa using hbytes.1.2, hframe.1.symm⟩
    · cases hframe
  · rintro ⟨kind, payload, hshort, rfl⟩
    refine ⟨kind.toNat, payload.map fun b => (b.toNat : Int), c.turned, ?_⟩
    rw [c.frame_of_bytes kind payload hshort, hstamped]

namespace Frame

/-- A frame with its bytes written out. -/
theorem encode_eq
    (kind : UInt8)
    (payload : List UInt8) :
    encode kind payload =
      [0x02, UInt8.ofNat (payload.length + 5), kind] ++ payload ++
        [0x03, payload.foldl (· ^^^ ·) (UInt8.ofNat (payload.length + 5) ^^^ kind)] := by
  simp [encode, body, checksum, startByte, endByte, overhead]

/--
Received bytes are accepted exactly when they are a start byte, their own length, a
type, at most 250 bytes of payload, an end byte and the exclusive or of what the two
enclose; the type and the payload are then determined, and these are exactly the frames
that a codec builds while its acknowledgement bit is down.
-/
theorem accepts_exactly_frames
    (x : List UInt8) :
    (accepts x = true ↔
      ∃! parts : UInt8 × List UInt8,
        parts.2.length ≤ 250 ∧
          x = [0x02, UInt8.ofNat (parts.2.length + 5), parts.1] ++ parts.2 ++
            [0x03, parts.2.foldl (· ^^^ ·) (UInt8.ofNat (parts.2.length + 5) ^^^ parts.1)]) ∧
      ∀ c : Codec, c.ack = false →
        (accepts x = true ↔ ∃ kind data c', c.frame kind data = .ok (x, c')) := by
  refine ⟨?_, fun c hack => by rw [c.exists_frame_iff hack, accepts_iff_encode]⟩
  simp only [← encode_eq]
  rw [accepts_iff_encode]
  constructor
  · rintro ⟨kind, payload, hshort, rfl⟩
    refine ⟨(kind, payload), ⟨hshort, rfl⟩, ?_⟩
    rintro ⟨kind', payload'⟩ ⟨-, hsame⟩
    obtain ⟨hkind, hpayload⟩ := encode_inj hsame
    rw [hkind, hpayload]
  · rintro ⟨⟨kind, payload⟩, ⟨hshort, hx⟩, -⟩
    exact ⟨kind, payload, hshort, hx⟩

/-- The query for the serial number is accepted because the usual codec frames it. -/
theorem accepts_exactly_frames_query :
    accepts [0x02, 0x08, 0x60, 0x00, 0x00, 0x05, 0x03, 0x6D] = true :=
  ((accepts_exactly_frames [0x02, 0x08, 0x60, 0x00, 0x00, 0x05, 0x03, 0x6D]).2
    Codec.usual rfl).mpr ⟨0x60, [0, 0, 5], Codec.usual.turned, rfl⟩

/-! ## Damaged frames -/

theorem checksum_of_accepts
    {x : List UInt8}
    (haccepts : accepts x = true) :
    checksum x = startByte ^^^ endByte := by
  obtain ⟨kind, payload, -, rfl⟩ := (accepts_iff_encode x).mp haccepts
  exact checksum_encode kind payload

/-- The second byte of an accepted frame is its length. -/
theorem declared_of_accepts
    {x : List UInt8}
    (haccepts : accepts x = true) :
    x[1]?.map UInt8.toNat = some x.length := by
  simp only [accepts, Bool.and_eq_true, beq_iff_eq] at haccepts
  exact haccepts.1.2

/-- Two accepted frames differ in two places. -/
theorem accepted_differ_twice
    {x y : List UInt8}
    (hx : accepts x = true)
    (hy : accepts y = true)
    (hne : x ≠ y)
    (hlength : x.length = y.length) :
    ∃ i j, i < j ∧ j < x.length ∧ x[i]? ≠ y[i]? ∧ x[j]? ≠ y[j]? :=
  two_places_of_checksum_eq hlength (by rw [checksum_of_accepts hx, checksum_of_accepts hy]) hne

/-- An accepted frame that another one starts with is as long. -/
theorem length_eq_of_accepted_start
    {x y : List UInt8}
    (hx : accepts x = true)
    (hy : accepts y = true)
    (hstart : x <+: y) :
    x.length = y.length := by
  have hsecond : x[1]? = y[1]? := by
    obtain ⟨kind, payload, -, rfl⟩ := (accepts_iff_encode x).mp hx
    obtain ⟨z, rfl⟩ := hstart
    rw [List.getElem?_append_left (by simp [length_encode, overhead])]
  have hlengths : some x.length = some y.length := by
    rw [← declared_of_accepts hx, ← declared_of_accepts hy, hsecond]
  exact Option.some.inj hlengths

/-- One changed byte is noticed. -/
theorem not_accepts_set
    {x : List UInt8}
    (hx : accepts x = true)
    {i : Nat}
    (hi : i < x.length)
    {b : UInt8}
    (hb : x[i]? ≠ some b) :
    accepts (x.set i b) = false := by
  refine Bool.eq_false_iff.mpr fun hset => ?_
  have hne : x ≠ x.set i b := by
    intro heq
    rw [heq, List.getElem?_set_self hi] at hb
    exact hb rfl
  obtain ⟨j, k, hjk, -, hj, hk⟩ := accepted_differ_twice hx hset hne (by simp)
  -- Only the changed place differs, and it is not both of the two.
  have honly : ∀ m, x[m]? ≠ (x.set i b)[m]? → m = i := by
    intro m hm
    refine Decidable.byContradiction fun hmi => hm ?_
    rw [List.getElem?_set_ne (Ne.symm hmi)]
  exact absurd ((honly j hj).trans (honly k hk).symm) (Nat.ne_of_lt hjk)

/-- A frame that is cut short is noticed. -/
theorem not_accepts_take
    {x : List UInt8}
    (hx : accepts x = true)
    {n : Nat}
    (hn : n < x.length) :
    accepts (x.take n) = false := by
  refine Bool.eq_false_iff.mpr fun htake => ?_
  have hlength := length_eq_of_accepted_start htake hx ⟨x.drop n, List.take_append_drop n x⟩
  rw [List.length_take] at hlength
  omega

/-- Bytes after a frame are noticed. -/
theorem not_accepts_append
    {x : List UInt8}
    (hx : accepts x = true)
    {z : List UInt8}
    (hz : z ≠ []) :
    accepts (x ++ z) = false := by
  refine Bool.eq_false_iff.mpr fun happend => hz ?_
  have hlength := length_eq_of_accepted_start hx happend ⟨z, rfl⟩
  simpa using hlength

/--
Accepted frames are far apart: two of one length differ in at least two places, and of
two of different lengths neither is a prefix of the other.  Therefore a frame with one
byte changed, with its end cut off or with bytes after it is never accepted.
-/
theorem accepted_frames_apart
    (x : List UInt8)
    (hx : accepts x = true) :
    (∀ y, accepts y = true → x ≠ y →
      (x.length = y.length →
        ∃ i j, i < j ∧ j < x.length ∧ x[i]? ≠ y[i]? ∧ x[j]? ≠ y[j]?) ∧
      (x.length ≠ y.length → ¬ x <+: y ∧ ¬ y <+: x)) ∧
      (∀ i b, i < x.length → x[i]? ≠ some b → accepts (x.set i b) = false) ∧
      (∀ n, n < x.length → accepts (x.take n) = false) ∧
      (∀ z, z ≠ [] → accepts (x ++ z) = false) := by
  refine ⟨?_, fun _ _ hi hb => not_accepts_set hx hi hb, fun _ hn => not_accepts_take hx hn,
    fun _ hz => not_accepts_append hx hz⟩
  intro y hy hne
  refine ⟨accepted_differ_twice hx hy hne, fun hlength => ⟨?_, ?_⟩⟩
  · exact fun hstart => hlength (length_eq_of_accepted_start hx hy hstart)
  · exact fun hstart => hlength (length_eq_of_accepted_start hy hx hstart).symm

/-- The query for the serial number beside the reset command and an empty auxiliary frame. -/
theorem accepted_frames_apart_query :
    let query : List UInt8 := [0x02, 0x08, 0x60, 0x00, 0x00, 0x05, 0x03, 0x6D]
    let reset : List UInt8 := [0x02, 0x08, 0x60, 0x7F, 0x7F, 0x7F, 0x03, 0x17]
    (∃ i j, i < j ∧ j < query.length ∧ query[i]? ≠ reset[i]? ∧ query[j]? ≠ reset[j]?) ∧
      ¬ query <+: [0x02, 0x05, 0x60, 0x03, 0x65] ∧
      accepts (query.set 7 0x6C) = false ∧
      accepts (query.take 5) = false ∧
      accepts (query ++ [0x00]) = false := by
  intro query reset
  obtain ⟨happart, hset, htake, happend⟩ := accepted_frames_apart query (by decide)
  refine ⟨(happart reset (by decide) (by decide)).1 (by decide),
    ((happart [0x02, 0x05, 0x60, 0x03, 0x65] (by decide) (by decide)).2 (by decide)).1,
    hset 7 0x6C (by decide) (by decide), htake 5 (by decide), happend [0x00] (by decide)⟩

end Frame

end AcceptorHost
