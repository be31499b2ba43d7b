import DreamHeroes.Checksum
import DreamHeroes.TcpSession

/- Frames as message_interface builds them for sending, and when a receiver takes such a frame
   and gets the payload back. The keys are never used, so nothing is encrypted. -/
namespace MessageInterface

open ByteWords Checksum TcpSession

def messageCompressLen : Nat := 512

/- A compress or uncompress that returns false gives none. -/
structure Strategy where
  compress : Bytes → Option Bytes
  uncompress : Bytes → Option Bytes

/- The bytes of a buffer from `new char[len]`. -/
abbrev Fresh := Nat → UInt8

/- A payload of one byte leaves the header as it was allocated, and without compression the
   mask stays so too. -/
def makeMessage (fresh : Fresh) (data : Bytes) (compressed : Bool) : Bytes :=
  let lenMax := data.length + messageHeadLen
  let len := [fresh 0, fresh 1, fresh 2, fresh 3]
  let mask := [fresh 4, fresh 5]
  let check := [fresh 6, fresh 7, fresh 8, fresh 9]
  if 1 < data.length then
    let check := littleEndian 4 (sslCrc32 data).toNat
    let mask :=
      if compressed then littleEndian 2 (word32 mask ||| compressMask)
      else mask
    let len := littleEndian 4 lenMax
    len ++ mask ++ check ++ data
  else len ++ mask ++ check ++ data

/-- What compress hands to makeMessage: the bytes, and whether they are compressed. -/
def carried (strategy : Option Strategy) (data : Bytes) : Bytes × Bool :=
  match strategy with
  | some interface =>
      if messageCompressLen < data.length then
        match interface.compress data with
        | some packed => if packed.length < data.length then (packed, true) else (data, false)
        | none => (data, false)
      else (data, false)
  | none => (data, false)

def compress (strategy : Option Strategy) (fresh : Fresh) (data : Bytes) : Bytes :=
  makeMessage fresh (carried strategy data).1 (carried strategy data).2

/- The check of send_message. -/
abbrev Admitted (data : Bytes) : Prop := 1 ≤ data.length ∧ data.length ≤ maxMessageLen - 1

def Strategy.Inverts (interface : Strategy) : Prop :=
  ∀ data packed, interface.compress data = some packed → interface.uncompress packed = some data

/-- A receiver takes the frame and gets the data back. -/
structure RoundTrip (strategy : Option Strategy) (data frame : Bytes) : Prop where
  header : word32 frame = frame.length
  accepted : ¬ BadLength (word32 frame)
  restored : uncompress (strategy.map (·.uncompress)) frame = .ok (some data)

/-- At least two bytes that fit a frame; if they are not compressed, there is no strategy or
it gives them back unchanged. -/
def Carries (strategy : Option Strategy) (body : Bytes) (compressed : Bool) : Prop :=
  2 ≤ body.length ∧ body.length + messageHeadLen ≤ maxMessageLen ∧
    (compressed = true ∨ ∀ interface ∈ strategy, interface.uncompress body = some body)

variable {strategy : Option Strategy} {fresh : Fresh} {data body : Bytes} {compressed : Bool}

/-- The high byte of the mask. -/
def maskHigh (fresh : Fresh) (compressed : Bool) : UInt8 :=
  if compressed then UInt8.ofNat ((word32 [fresh 4, fresh 5] ||| compressMask) / 256)
  else fresh 5

theorem maskHigh_compressed : 128 ≤ maskHigh fresh true := by
  have set : (word32 [fresh 4, fresh 5] ||| 1 <<< 15) &&& 1 <<< 15 ≠ 0 := by
    rw [Nat.one_shiftLeft, Nat.and_two_pow, Nat.testBit_or, Nat.testBit_two_pow_self, Bool.or_true]
    decide
  have high := (masked_bit_fifteen _).mp set
  rw [maskHigh, if_pos rfl, UInt8.le_iff_toNat_le, UInt8.toNat_ofNat']
  exact high

theorem makeMessage_length (fresh : Fresh) (data : Bytes) (compressed : Bool) :
    (makeMessage fresh data compressed).length = data.length + messageHeadLen := by
  unfold makeMessage
  split
  · split <;> simp [messageHeadLen] <;> omega
  · simp [messageHeadLen]

/-- A frame of two bytes or more: its length, the mask, the checksum and the data. -/
theorem makeMessage_long (fresh : Fresh) (compressed : Bool) (long : 2 ≤ data.length) :
    ∃ low, makeMessage fresh data compressed =
      littleEndian 4 (data.length + messageHeadLen) ++
        (low :: maskHigh fresh compressed :: (littleEndian 4 (sslCrc32 data).toNat ++ data)) := by
  have written : 1 < data.length := long
  rw [makeMessage, if_pos written]
  cases compressed with
  | true => exact ⟨UInt8.ofNat (word32 [fresh 4, fresh 5] ||| compressMask),
      by simp [littleEndian, maskHigh]⟩
  | false => exact ⟨fresh 4, by simp [maskHigh]⟩

theorem makeMessage_header (fresh : Fresh) (compressed : Bool) (long : 2 ≤ body.length)
    (fits : body.length + messageHeadLen ≤ maxMessageLen) :
    word32 (makeMessage fresh body compressed) = body.length + messageHeadLen := by
  obtain ⟨low, frame⟩ := makeMessage_long fresh compressed long
  rw [frame, word32_littleEndian]
  simp only [maxMessageLen] at fits
  omega

theorem makeMessage_good (fresh : Fresh) (compressed : Bool) (long : 2 ≤ body.length)
    (fits : body.length + messageHeadLen ≤ maxMessageLen) :
    ¬ BadLength (word32 (makeMessage fresh body compressed)) := by
  rw [makeMessage_header fresh compressed long fits, BadLength]
  omega

/-- What the receiver makes of a frame, whatever the fresh memory held. -/
theorem uncompress_makeMessage (unpack : Option CompressStrategy) (fresh : Fresh)
    (compressed : Bool) (long : 2 ≤ body.length)
    (fits : body.length + messageHeadLen ≤ maxMessageLen) :
    uncompress unpack (makeMessage fresh body compressed) =
      .ok (match unpack with
        | some compressInterface =>
            if 128 ≤ maskHigh fresh compressed then compressInterface body else some body
        | none => some body) := by
  have header := makeMessage_header fresh compressed long fits
  have size := makeMessage_length fresh body compressed
  rw [uncompress_frame (makeMessage_good fresh compressed long fits) (by omega), header, ← size,
    List.take_length]
  obtain ⟨low, frame⟩ := makeMessage_long fresh compressed long
  have fifth : (makeMessage fresh body compressed)[5]? = some (maskHigh fresh compressed) := by
    rw [frame, List.getElem?_append_right (by simp)]
    simp
  have rest : (makeMessage fresh body compressed).drop messageHeadLen = body := by
    rw [frame, List.drop_append, List.drop_eq_nil_of_le (by simp [messageHeadLen])]
    simp [messageHeadLen]
  cases unpack with
  | none => simp only [payload, rest]
  | some compressInterface => simp [payload, rest, Compressed, fifth]

theorem roundTrip_compressed {interface : Strategy} (long : 2 ≤ body.length)
    (fits : body.length + messageHeadLen ≤ maxMessageLen)
    (restores : interface.uncompress body = some data) :
    RoundTrip (some interface) data (makeMessage fresh body true) where
  header := by rw [makeMessage_header fresh true long fits, makeMessage_length]
  accepted := makeMessage_good fresh true long fits
  restored := by
    rw [uncompress_makeMessage _ fresh true long fits]
    simp [maskHigh_compressed, restores]

theorem roundTrip_plain (long : 2 ≤ body.length)
    (fits : body.length + messageHeadLen ≤ maxMessageLen)
    (unchanged : ∀ interface ∈ strategy, interface.uncompress body = some body) :
    RoundTrip strategy body (makeMessage fresh body false) where
  header := by rw [makeMessage_header fresh false long fits, makeMessage_length]
  accepted := makeMessage_good fresh false long fits
  restored := by
    rw [uncompress_makeMessage _ fresh false long fits]
    cases strategy with
    | none => rfl
    | some interface => simp [unchanged interface rfl]

/-- Fresh memory that is all zero breaks the header of a short frame, and bit 15 of the mask
may be set in any. -/
theorem carries_of_roundTrip
    (all : ∀ fresh, RoundTrip strategy data (makeMessage fresh body compressed))
    (plain : compressed = false → body = data) : Carries strategy body compressed := by
  have zero := all fun _ => 0
  have size := makeMessage_length (fun _ => 0) body compressed
  have long : 2 ≤ body.length := by
    by_contra short
    have header := zero.header
    rw [size, makeMessage, if_neg (by omega)] at header
    simp [word32, messageHeadLen] at header
  have fits : body.length + messageHeadLen ≤ maxMessageLen := by
    have accepted := zero.accepted
    rw [zero.header, size, BadLength] at accepted
    omega
  refine ⟨long, fits, ?_⟩
  cases compressed with
  | true => exact .inl rfl
  | false =>
    refine .inr ?_
    intro interface present
    have marked := (all fun _ => 128).restored
    rw [uncompress_makeMessage _ _ false long fits, Option.mem_def.mp present] at marked
    rw [plain rfl] at marked ⊢
    simpa [maskHigh] using marked

theorem carried_body (strategy : Option Strategy) (data : Bytes) :
    carried strategy data = (data, false) ∨ ∃ interface packed, strategy = some interface ∧
      interface.compress data = some packed ∧ carried strategy data = (packed, true) := by
  unfold carried
  split
  · rename_i interface
    split
    · split
      · rename_i packed smaller
        split
        · exact .inr ⟨interface, packed, rfl, smaller, rfl⟩
        · exact .inl rfl
      · exact .inl rfl
    · exact .inl rfl
  · exact .inl rfl

/-- Exactly these payloads reach the receiver, whatever the fresh memory held, by makeMessage
and by compress. -/
theorem frames_round_trip_iff (strategy : Option Strategy) (data : Bytes)
    (inverts : ∀ interface ∈ strategy, interface.Inverts) :
    ((∀ fresh, RoundTrip strategy data (makeMessage fresh data false)) ↔
      Carries strategy data false) ∧
    ((∀ fresh, RoundTrip strategy data (compress strategy fresh data)) ↔
      Carries strategy (carried strategy data).1 (carried strategy data).2) := by
  have direct : (∀ fresh, RoundTrip strategy data (makeMessage fresh data false)) ↔
      Carries strategy data false := by
    constructor
    · intro all
      exact carries_of_roundTrip all fun _ => rfl
    · intro ⟨long, fits, plain⟩ fresh
      exact roundTrip_plain long fits (plain.resolve_left (by decide))
  refine ⟨direct, ?_⟩
  unfold compress
  rcases carried_body strategy data with plain | ⟨interface, packed, present, packs, taken⟩
  · rw [plain]
    exact direct
  · rw [taken]
    constructor
    · intro all
      exact carries_of_roundTrip all fun wrong => Bool.noConfusion wrong
    · intro ⟨long, fits, _⟩ fresh
      rw [present]
      exact roundTrip_compressed long fits (inverts interface present data packed packs)

theorem frames_round_trip_iff_two_bytes :
    (∀ fresh, RoundTrip none [7, 9] (makeMessage fresh [7, 9] false)) ↔ Carries none [7, 9] false :=
  (frames_round_trip_iff none [7, 9] (by simp)).1

/-- One byte is admitted, but its frame has no header. -/
theorem one_byte_frame_refused :
    ¬ ∀ data, Admitted data → ∀ fresh, RoundTrip none data (makeMessage fresh data false) := by
  intro all
  have header := (all [7] (by decide) fun _ => 0).header
  revert header
  decide

end MessageInterface
