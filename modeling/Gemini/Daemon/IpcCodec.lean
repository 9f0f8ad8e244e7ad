import Gemini.Data.ExactCodec
import Gemini.Daemon.IpcProtocol

/-!
# The wire codecs are exact

Each payload codec of `DaemonIpcProtocol.cpp` reads back what it writes and accepts
nothing else. `readDaemonIpcFrame` is the blocking reader: it takes the magic, the
rest of the header and the payload from the descriptor in three calls of `readExact`,
with its own copy of the header checks. `readDaemonIpcFrame_iff` says that it agrees
with the buffered pair `completeFrameLength` and `decodeDaemonIpcFrame` on every byte
stream, however `::read` cuts it.
-/

namespace Gemini.Daemon

open Gemini.Data

/-! ## Words -/

/-- The two bytes a 16-bit word was read from are the ones it is written as. -/
theorem writeU16_readU16 (bytes : Bytes) (long : 2 ≤ bytes.length) :
    writeU16 (readU16 bytes) [] ++ bytes.drop 2 = bytes := by
  match bytes, long with
  | b0 :: b1 :: rest, _ =>
      have value := toNat_readU16 b0 b1 rest
      have bound0 := b0.toNat_lt
      have bound1 := b1.toNat_lt
      have high : (readU16 (b0 :: b1 :: rest) >>> 8 &&& 0xFF).toUInt8 = b0 := by
        apply UInt8.toNat_inj.mp
        simp only [UInt16.toNat_toUInt8, UInt16.toNat_and, UInt16.toNat_shiftRight, value,
          UInt16.reduceToNat, Nat.reduceMod, Nat.shiftRight_eq_div_pow]
        rw [show (255 : Nat) = 2 ^ 8 - 1 from rfl, Nat.and_two_pow_sub_one_eq_mod]
        omega
      have low : (readU16 (b0 :: b1 :: rest) &&& 0xFF).toUInt8 = b1 := by
        apply UInt8.toNat_inj.mp
        simp only [UInt16.toNat_toUInt8, UInt16.toNat_and, value, UInt16.reduceToNat]
        rw [show (255 : Nat) = 2 ^ 8 - 1 from rfl, Nat.and_two_pow_sub_one_eq_mod]
        omega
      simp only [writeU16, high, low, List.nil_append, List.cons_append, List.drop_succ_cons,
        List.drop_zero]

/-- The four bytes a 32-bit word was read from are the ones it is written as. -/
theorem writeU32_readU32 (bytes : Bytes) (long : 4 ≤ bytes.length) :
    writeU32 (readU32 bytes) [] ++ bytes.drop 4 = bytes := by
  match bytes, long with
  | b0 :: b1 :: b2 :: b3 :: rest, _ =>
      have value := toNat_readU32 b0 b1 b2 b3 rest
      have bound0 := b0.toNat_lt
      have bound1 := b1.toNat_lt
      have bound2 := b2.toNat_lt
      have bound3 := b3.toNat_lt
      -- One byte of the word, by how far it is shifted down.
      have byte : ∀ (shift : UInt32) (b : UInt8),
          (readU32 (b0 :: b1 :: b2 :: b3 :: rest)).toNat / 2 ^ (shift.toNat % 32) % 256 = b.toNat →
          (readU32 (b0 :: b1 :: b2 :: b3 :: rest) >>> shift &&& 0xFF).toUInt8 = b := by
        intro shift b same
        apply UInt8.toNat_inj.mp
        simp only [UInt32.toNat_toUInt8, UInt32.toNat_and, UInt32.toNat_shiftRight,
          UInt32.reduceToNat, Nat.shiftRight_eq_div_pow]
        rw [show (255 : Nat) = 2 ^ 8 - 1 from rfl, Nat.and_two_pow_sub_one_eq_mod]
        omega
      have first := byte 24 b0 (by rw [value]; simp; omega)
      have second := byte 16 b1 (by rw [value]; simp; omega)
      have third := byte 8 b2 (by rw [value]; simp; omega)
      have fourth := byte 0 b3 (by rw [value]; simp)
      simp only [UInt32.shiftRight_zero] at fourth
      simp only [writeU32, first, second, third, fourth, List.nil_append, List.cons_append,
        List.drop_succ_cons, List.drop_zero]

/-- A length below the limits survives the 32-bit length field. -/
theorem toNat_ofNat_length {length : Nat} (small : length ≤ kDaemonIpcMaxPayloadSize) :
    (UInt32.ofNat length).toNat = length := by
  rw [UInt32.toNat_ofNat']
  apply Nat.mod_eq_of_lt
  simp only [kDaemonIpcMaxPayloadSize] at small
  omega

/-- A word is read from the bytes it stands in, whatever is cut off behind them. -/
theorem readU16_take (bytes : Bytes) {count : Nat} (enough : 2 ≤ count) :
    readU16 (bytes.take count) = readU16 bytes := by
  obtain ⟨more, rfl⟩ := Nat.exists_eq_add_of_le' enough
  match bytes with
  | [] => rfl
  | [_] => rfl
  | _ :: _ :: _ => rfl

/-- A word is read from its first four bytes. -/
theorem readU32_take (bytes : Bytes) {count : Nat} (enough : 4 ≤ count) :
    readU32 (bytes.take count) = readU32 bytes := by
  obtain ⟨more, rfl⟩ := Nat.exists_eq_add_of_le' enough
  match bytes with
  | [] => rfl
  | [_] => rfl
  | [_, _] => rfl
  | [_, _, _] => rfl
  | _ :: _ :: _ :: _ :: _ => rfl

/-! ## Payloads -/

/-- Handshakes are read back, and nothing else is read. -/
theorem handshake_exact :
    ExactCodec encodeHandshakePayload decodeHandshakePayload (fun _ => True) where
  decode_encode v _ := by
    have read := readU16_writeU16 v.clientProtocolVersion []
    rw [List.append_nil] at read
    simp [encodeHandshakePayload, decodeHandshakePayload, read]
  encode_of_decode p v decoded := by
    simp only [decodeHandshakePayload, Option.ite_none_left_eq_some, Decidable.not_not,
      Option.some.injEq] at decoded
    obtain ⟨length, rfl⟩ := decoded
    have written := writeU16_readU16 p (by omega)
    rw [List.drop_eq_nil_of_le (by omega), List.append_nil] at written
    exact written

/-- So are ports. -/
theorem port_exact : ExactCodec encodePortPayload decodePortPayload (fun _ => True) where
  decode_encode v _ := by
    have read := readU32_writeU32 v.sessionPort []
    rw [List.append_nil] at read
    simp [encodePortPayload, decodePortPayload, read]
  encode_of_decode p v decoded := by
    simp only [decodePortPayload, Option.ite_none_left_eq_some, Decidable.not_not,
      Option.some.injEq] at decoded
    obtain ⟨length, rfl⟩ := decoded
    have written := writeU32_readU32 p (by omega)
    rw [List.drop_eq_nil_of_le (by omega), List.append_nil] at written
    exact written

/-- A length field and the text it counts, at the end of a payload, are what the reader
takes apart. -/
theorem lengthField_of_read (tail : Bytes) (long : 4 ≤ tail.length)
    (counts : tail.length = 4 + (readU32 tail).toNat) :
    writeU32 (UInt32.ofNat ((tail.drop 4).take (readU32 tail).toNat).length) [] ++
      (tail.drop 4).take (readU32 tail).toNat = tail := by
  have whole : (tail.drop 4).take (readU32 tail).toNat = tail.drop 4 := by
    apply List.take_of_length_le
    rw [List.length_drop]
    omega
  have length : (tail.drop 4).length = (readU32 tail).toNat := by
    rw [List.length_drop]
    omega
  rw [whole, length, UInt32.ofNat_toNat]
  exact writeU32_readU32 tail long

/-- So are the answers to handshakes. -/
theorem handshakeAck_exact :
    ExactCodec encodeHandshakeAckPayload decodeHandshakeAckPayload
      (fun v => v.buildVersion.length ≤ kDaemonIpcMaxPayloadSize) where
  decode_encode v within := by
    have spelled : encodeHandshakeAckPayload v = writeU16 v.serverProtocolVersion [] ++
        (writeU16 v.maxSessions [] ++
          (writeU32 (UInt32.ofNat v.buildVersion.length) [] ++ v.buildVersion)) := by
      simp [encodeHandshakeAckPayload, writeU16, writeU32]
    have version : (writeU16 v.serverProtocolVersion []).length = 2 := by simp
    have sessions : (writeU16 v.maxSessions []).length = 2 := by simp
    have count : (writeU32 (UInt32.ofNat v.buildVersion.length) []).length = 4 := by simp
    have versionLen : (readU32 ((encodeHandshakeAckPayload v).drop 4)).toNat =
        v.buildVersion.length := by
      rw [spelled, show 4 = 2 + 2 from rfl, ← List.drop_drop, List.drop_left' version,
        List.drop_left' sessions, readU32_writeU32, toNat_ofNat_length within]
    have maxSessions : readU16 ((encodeHandshakeAckPayload v).drop 2) = v.maxSessions := by
      rw [spelled, List.drop_left' version, readU16_writeU16]
    have serverVersion : readU16 (encodeHandshakeAckPayload v) = v.serverProtocolVersion := by
      rw [spelled, readU16_writeU16]
    have body : (encodeHandshakeAckPayload v).drop 8 = v.buildVersion := by
      rw [spelled, show 8 = 2 + (2 + 4) from rfl, ← List.drop_drop, List.drop_left' version,
        ← List.drop_drop, List.drop_left' sessions, List.drop_left' count]
    have length : (encodeHandshakeAckPayload v).length = 8 + v.buildVersion.length := by
      rw [spelled]
      simp
      omega
    simp [decodeHandshakeAckPayload, versionLen, maxSessions, serverVersion, body, length, within]
  encode_of_decode p v decoded := by
    simp only [decodeHandshakeAckPayload, Option.ite_none_left_eq_some, not_or, Decidable.not_not,
      Option.some.injEq] at decoded
    obtain ⟨long, ⟨-, counts⟩, rfl⟩ := decoded
    have tail := lengthField_of_read (p.drop 4) (by rw [List.length_drop]; omega)
      (by rw [List.length_drop]; omega)
    rw [List.drop_drop] at tail
    have sessions := writeU16_readU16 (p.drop 2) (by rw [List.length_drop]; omega)
    rw [List.drop_drop] at sessions
    have version := writeU16_readU16 p (by omega)
    calc encodeHandshakeAckPayload _
      _ = writeU16 (readU16 p) [] ++ (writeU16 (readU16 (p.drop 2)) [] ++
            (writeU32 (UInt32.ofNat ((p.drop 8).take (readU32 (p.drop 4)).toNat).length) [] ++
              (p.drop 8).take (readU32 (p.drop 4)).toNat)) := by
          simp [encodeHandshakeAckPayload, writeU16, writeU32]
      _ = p := by rw [tail, sessions, version]

/-- So are errors. -/
theorem error_exact :
    ExactCodec encodeErrorPayload decodeErrorPayload
      (fun v => v.message.length ≤ kDaemonIpcMaxPayloadSize) where
  decode_encode v within := by
    have spelled : encodeErrorPayload v = writeU32 v.code.code [] ++
        (writeU32 (UInt32.ofNat v.message.length) [] ++ v.message) := by
      simp [encodeErrorPayload, writeU32]
    have code : (writeU32 v.code.code []).length = 4 := by simp
    have count : (writeU32 (UInt32.ofNat v.message.length) []).length = 4 := by simp
    have messageLen : (readU32 ((encodeErrorPayload v).drop 4)).toNat = v.message.length := by
      rw [spelled, List.drop_left' code, readU32_writeU32, toNat_ofNat_length within]
    have errorCode : readU32 (encodeErrorPayload v) = v.code.code := by
      rw [spelled, readU32_writeU32]
    have body : (encodeErrorPayload v).drop 8 = v.message := by
      rw [spelled, show 8 = 4 + 4 from rfl, ← List.drop_drop, List.drop_left' code,
        List.drop_left' count]
    have length : (encodeErrorPayload v).length = 8 + v.message.length := by
      rw [spelled]
      simp
      omega
    simp [decodeErrorPayload, messageLen, errorCode, body, length, within]
  encode_of_decode p v decoded := by
    simp only [decodeErrorPayload, Option.ite_none_left_eq_some, not_or, Decidable.not_not,
      Option.some.injEq] at decoded
    obtain ⟨long, ⟨-, counts⟩, rfl⟩ := decoded
    have tail := lengthField_of_read (p.drop 4) (by rw [List.length_drop]; omega)
      (by rw [List.length_drop]; omega)
    rw [List.drop_drop] at tail
    have code := writeU32_readU32 p (by omega)
    calc encodeErrorPayload _
      _ = writeU32 (readU32 p) [] ++
            (writeU32 (UInt32.ofNat ((p.drop 8).take (readU32 (p.drop 4)).toNat).length) [] ++
              (p.drop 8).take (readU32 (p.drop 4)).toNat) := by
          simp [encodeErrorPayload, writeU32]
      _ = p := by rw [tail, code]

/-- So are the data of sessions. -/
theorem sessionData_exact :
    ExactCodec encodeSessionDataPayload decodeSessionDataPayload
      (fun data => data.length ≤ kDaemonIpcMaxSessionDataSize) where
  decode_encode data within := by
    have count : (writeU32 (UInt32.ofNat data.length) []).length = 4 := by simp
    have small : data.length ≤ kDaemonIpcMaxPayloadSize :=
      Nat.le_trans within (Nat.sub_le _ _)
    have dataLen : (readU32 (encodeSessionDataPayload data)).toNat = data.length := by
      rw [encodeSessionDataPayload, readU32_writeU32, toNat_ofNat_length small]
    have body : (encodeSessionDataPayload data).drop 4 = data := by
      rw [encodeSessionDataPayload, List.drop_left' count]
    simp [decodeSessionDataPayload, dataLen, body, within]
  encode_of_decode p data decoded := by
    simp only [decodeSessionDataPayload, Option.ite_none_left_eq_some, not_or, Decidable.not_not,
      Option.some.injEq] at decoded
    obtain ⟨long, ⟨-, counts⟩, rfl⟩ := decoded
    exact lengthField_of_read p (by omega) counts

/-! ## The blocking reader -/

/-- A blocking descriptor: the bytes that come before the end of file, and how many
bytes beyond the first each coming `::read` may hand over. -/
structure Descriptor where
  bytes : Bytes
  grants : List Nat

/-- `::read`: at least one byte and at most `count`, none only at the end of file. -/
def Descriptor.read (fd : Descriptor) (count : Nat) : Bytes × Descriptor :=
  let size := match fd.grants with
    | [] => count
    | more :: _ => min count (more + 1)
  (fd.bytes.take size, { bytes := fd.bytes.drop size, grants := fd.grants.tail })

/-- What one `::read` for a positive count does: it hands over a first part of what is
left, an empty one only when nothing is left. -/
theorem Descriptor.read_spec (fd : Descriptor) {count : Nat} (positive : 0 < count) :
    (fd.read count).1 ++ (fd.read count).2.bytes = fd.bytes ∧
      (fd.read count).1.length ≤ count ∧
      ((fd.read count).1.length = 0 → fd.bytes = []) := by
  have split : ∀ size, 0 < size → size ≤ count →
      fd.bytes.take size ++ fd.bytes.drop size = fd.bytes ∧
        (fd.bytes.take size).length ≤ count ∧
        ((fd.bytes.take size).length = 0 → fd.bytes = []) := by
    intro size sizePositive sizeBound
    refine ⟨List.take_append_drop _ _, ?_, ?_⟩
    · rw [List.length_take]
      omega
    · intro nothing
      rw [List.length_take] at nothing
      apply List.length_eq_zero_iff.mp
      omega
  cases granted : fd.grants with
  | nil => simpa [Descriptor.read, granted] using split count positive (Nat.le_refl _)
  | cons more rest =>
      simpa [Descriptor.read, granted] using
        split (min count (more + 1)) (by omega) (Nat.min_le_left _ _)

/-- The loop of `readExact`: the bytes read into the buffer, or none when the stream
ends first, and the descriptor it leaves behind. -/
def readExact (fd : Descriptor) (length : Nat) : Option Bytes × Descriptor :=
  if _ : length = 0 then (some [], fd)
  else
    let chunk := (fd.read length).1
    let rest := (fd.read length).2
    if _ : chunk.length = 0 then (none, rest)
    else
      match readExact rest (length - chunk.length) with
      | (some bytes, fd) => (some (chunk ++ bytes), fd)
      | (none, fd) => (none, fd)
termination_by length
decreasing_by change length - chunk.length < length; omega

/-- `readExact` delivers the next `length` bytes of the stream, or fails when there are
fewer. -/
theorem readExact_cases (fd : Descriptor) (length : Nat) :
    ∃ rest, length ≤ fd.bytes.length ∧ rest.bytes = fd.bytes.drop length ∧
        readExact fd length = (some (fd.bytes.take length), rest) ∨
      fd.bytes.length < length ∧ readExact fd length = (none, rest) := by
  fun_induction readExact fd length with
  | case1 fd => exact ⟨fd, .inl ⟨Nat.zero_le _, rfl, rfl⟩⟩
  | case2 fd length positive chunk rest nothing =>
      obtain ⟨-, -, ended⟩ := fd.read_spec (Nat.pos_of_ne_zero positive)
      refine ⟨rest, .inr ⟨?_, rfl⟩⟩
      rw [ended nothing]
      exact Nat.pos_of_ne_zero positive
  | case3 fd length positive chunk rest something bytes fd' read ih =>
      obtain ⟨parts, bound, -⟩ := fd.read_spec (Nat.pos_of_ne_zero positive)
      have total : fd.bytes.length = chunk.length + rest.bytes.length := by
        rw [← parts, List.length_append]
      obtain ⟨last, ⟨enough, dropped, equal⟩ | ⟨-, equal⟩⟩ := ih
      · rw [read, Prod.mk.injEq, Option.some.injEq] at equal
        obtain ⟨rfl, rfl⟩ := equal
        refine ⟨fd', .inl ⟨by omega, ?_, ?_⟩⟩
        · rw [dropped, ← parts, List.drop_append, List.drop_eq_nil_of_le bound, List.nil_append]
        · rw [← parts, List.take_append, List.take_of_length_le bound]
      · rw [read] at equal
        cases equal
  | case4 fd length positive chunk rest something fd' read ih =>
      obtain ⟨parts, bound, -⟩ := fd.read_spec (Nat.pos_of_ne_zero positive)
      have total : fd.bytes.length = chunk.length + rest.bytes.length := by
        rw [← parts, List.length_append]
      obtain ⟨last, ⟨-, -, equal⟩ | ⟨short, -⟩⟩ := ih
      · rw [read] at equal
        cases equal
      · exact ⟨fd', .inr ⟨by omega, rfl⟩⟩

/-- The blocking reader, with the descriptor it leaves behind. -/
def readDaemonIpcFrame (fd : Descriptor) : Option DaemonIpcFrame × Descriptor :=
  match readExact fd 4 with
  | (none, fd) => (none, fd)
  | (some magic, fd) =>
      if magic ≠ kDaemonIpcMagic then (none, fd)
      else
        match readExact fd 8 with
        | (none, fd) => (none, fd)
        | (some header, fd) =>
            let payloadLen := (readU32 (header.drop 4)).toNat
            if payloadLen > kDaemonIpcMaxPayloadSize then (none, fd)
            else
              match readExact fd payloadLen with
              | (none, fd) => (none, fd)
              | (some payload, fd) =>
                  (some {
                    version := readU16 header
                    type := ⟨readU16 (header.drop 2)⟩
                    payload := payload }, fd)

/-! ## The two readers agree -/

/-- The payload length that the header at the head of `bytes` announces. -/
def announced (bytes : Bytes) : Nat :=
  (readU32 (bytes.drop 8)).toNat

/-- `bytes` begins with a whole frame that the readers admit. -/
structure HoldsFrame (bytes : Bytes) : Prop where
  magic : bytes.take 4 = kDaemonIpcMagic
  within : announced bytes ≤ kDaemonIpcMaxPayloadSize
  whole : 12 + announced bytes ≤ bytes.length

/-- The frame at the head of `bytes`. -/
def headFrame (bytes : Bytes) : DaemonIpcFrame where
  version := readU16 (bytes.drop 4)
  type := ⟨readU16 (bytes.drop 6)⟩
  payload := (bytes.drop 12).take (announced bytes)

/-- Bytes that begin with a whole frame are its encoding and what follows it. -/
theorem HoldsFrame.split {bytes : Bytes} (holds : HoldsFrame bytes) :
    encodeDaemonIpcFrame (headFrame bytes) ++ bytes.drop (12 + announced bytes) = bytes := by
  have long := holds.whole
  have payloadLength : (headFrame bytes).payload.length = announced bytes := by
    simp only [headFrame, List.length_take, List.length_drop]
    omega
  have length : writeU32 (UInt32.ofNat (headFrame bytes).payload.length) [] ++ bytes.drop 12 =
      bytes.drop 8 := by
    rw [payloadLength, announced, UInt32.ofNat_toNat]
    have written := writeU32_readU32 (bytes.drop 8) (by rw [List.length_drop]; omega)
    rwa [List.drop_drop] at written
  have type : writeU16 (headFrame bytes).type.code [] ++ bytes.drop 8 = bytes.drop 6 := by
    have written := writeU16_readU16 (bytes.drop 6) (by rw [List.length_drop]; omega)
    rwa [List.drop_drop] at written
  have version : writeU16 (headFrame bytes).version [] ++ bytes.drop 6 = bytes.drop 4 := by
    have written := writeU16_readU16 (bytes.drop 4) (by rw [List.length_drop]; omega)
    rwa [List.drop_drop] at written
  have payload : (headFrame bytes).payload ++ bytes.drop (12 + announced bytes) =
      bytes.drop 12 := by
    rw [headFrame, ← List.drop_drop]
    exact List.take_append_drop _ _
  rw [encodeDaemonIpcFrame_eq, frameHeader, ← holds.magic]
  simp only [List.append_assoc, payload, length, type, version, List.take_append_drop]

/-- The part of `bytes` that the frame takes up decodes to it. -/
theorem HoldsFrame.decode {bytes : Bytes} (holds : HoldsFrame bytes) :
    decodeDaemonIpcFrame (bytes.take (12 + announced bytes)) = some (headFrame bytes) := by
  have whole := holds.whole
  have within := holds.within
  have payloadLength : (headFrame bytes).payload.length = announced bytes := by
    simp only [headFrame, List.length_take, List.length_drop]
    omega
  have taken : bytes.take (12 + announced bytes) = encodeDaemonIpcFrame (headFrame bytes) := by
    have parts := congrArg (List.take (12 + announced bytes)) holds.split
    rw [List.take_left' (by rw [length_encodeDaemonIpcFrame, payloadLength])] at parts
    exact parts.symm
  have decoded := decodeDaemonIpcFrame_encode (headFrame bytes) [] (by omega)
  rwa [List.append_nil, ← taken] at decoded

/-- `completeFrameLength` finds a positive length exactly at a whole frame. -/
theorem completeFrameLength_eq_some_iff (bytes : Bytes) {k : Nat} (positive : k ≠ 0) :
    completeFrameLength bytes = some k ↔ HoldsFrame bytes ∧ k = 12 + announced bytes := by
  have notZero : some 0 ≠ some k := by
    intro zero
    exact positive (Option.some.inj zero).symm
  constructor
  · intro complete
    simp only [completeFrameLength, magicMatchesBuffer] at complete
    split at complete
    · cases complete
    split at complete
    · exact absurd complete notZero
    split at complete
    · exact absurd complete notZero
    split at complete
    · cases complete
    · rename_i magic within whole
      exact ⟨⟨by simpa using magic, Nat.not_lt.mp within, Nat.not_lt.mp whole⟩,
        (Option.some.inj complete).symm⟩
  · rintro ⟨holds, rfl⟩
    have whole := holds.whole
    have within := holds.within
    simp only [announced] at whole within
    have long : ¬ bytes.length < 12 := by omega
    simp [completeFrameLength, magicMatchesBuffer, holds.magic, announced, long,
      Nat.not_lt.mpr within, Nat.not_lt.mpr whole]

/-- What the buffered path accepts: a whole frame, with its length. -/
theorem buffered_iff (bytes : Bytes) (frame : DaemonIpcFrame) (k : Nat) :
    completeFrameLength bytes = some k ∧ decodeDaemonIpcFrame (bytes.take k) = some frame ↔
      HoldsFrame bytes ∧ k = 12 + announced bytes ∧ frame = headFrame bytes := by
  constructor
  · rintro ⟨complete, decoded⟩
    have positive : k ≠ 0 := by
      rintro rfl
      simp [decodeDaemonIpcFrame] at decoded
    obtain ⟨holds, rfl⟩ := (completeFrameLength_eq_some_iff bytes positive).mp complete
    rw [holds.decode, Option.some.injEq] at decoded
    exact ⟨holds, rfl, decoded.symm⟩
  · rintro ⟨holds, rfl, rfl⟩
    exact ⟨(completeFrameLength_eq_some_iff bytes (by omega)).mpr ⟨holds, rfl⟩, holds.decode⟩

/-- What the blocking reader does with a stream: it takes the whole frame at its head
and nothing more, or it gives no frame. -/
theorem readDaemonIpcFrame_spec (fd : Descriptor) :
    (HoldsFrame fd.bytes → ∃ rest, readDaemonIpcFrame fd = (some (headFrame fd.bytes), rest) ∧
      rest.bytes = fd.bytes.drop (12 + announced fd.bytes)) ∧
    (¬ HoldsFrame fd.bytes → (readDaemonIpcFrame fd).1 = none) := by
  obtain ⟨afterMagic, ⟨four, magicRest, magicRead⟩ | ⟨short, magicRead⟩⟩ := readExact_cases fd 4
  case inr =>
    exact ⟨fun holds => absurd holds.whole (by omega),
      fun _ => by simp [readDaemonIpcFrame, magicRead]⟩
  by_cases magic : fd.bytes.take 4 = kDaemonIpcMagic
  case neg =>
    exact ⟨fun holds => absurd holds.magic magic,
      fun _ => by simp [readDaemonIpcFrame, magicRead, magic]⟩
  obtain ⟨afterHeader, ⟨eight, headerRest, headerRead⟩ | ⟨short, headerRead⟩⟩ :=
    readExact_cases afterMagic 8
  case inr =>
    rw [magicRest, List.length_drop] at short
    exact ⟨fun holds => absurd holds.whole (by omega),
      fun _ => by simp [readDaemonIpcFrame, magicRead, magic, headerRead]⟩
  rw [magicRest, List.length_drop] at eight
  rw [magicRest] at headerRead
  rw [magicRest, List.drop_drop] at headerRest
  -- The header read on its own has the fields the buffer has at their places.
  have payloadLen : (readU32 (((fd.bytes.drop 4).take 8).drop 4)).toNat = announced fd.bytes := by
    rw [List.drop_take, List.drop_drop, readU32_take _ (by omega)]
    rfl
  have version : readU16 ((fd.bytes.drop 4).take 8) = readU16 (fd.bytes.drop 4) :=
    readU16_take _ (by omega)
  have type : readU16 (((fd.bytes.drop 4).take 8).drop 2) = readU16 (fd.bytes.drop 6) := by
    rw [List.drop_take, List.drop_drop, readU16_take _ (by omega)]
  by_cases within : announced fd.bytes ≤ kDaemonIpcMaxPayloadSize
  case neg =>
    exact ⟨fun holds => absurd holds.within within,
      fun _ => by
        simp [readDaemonIpcFrame, magicRead, magic, headerRead, payloadLen, Nat.not_le.mp within]⟩
  obtain ⟨afterPayload, ⟨whole, payloadRest, payloadRead⟩ | ⟨short, payloadRead⟩⟩ :=
    readExact_cases afterHeader (announced fd.bytes)
  case inr =>
    rw [headerRest, List.length_drop] at short
    exact ⟨fun holds => absurd holds.whole (by omega),
      fun _ => by
        simp [readDaemonIpcFrame, magicRead, magic, headerRead, payloadLen, payloadRead,
          Nat.not_lt.mpr within]⟩
  rw [headerRest, List.length_drop] at whole
  rw [headerRest] at payloadRead
  rw [headerRest, List.drop_drop] at payloadRest
  have holds : HoldsFrame fd.bytes := ⟨magic, within, by omega⟩
  refine ⟨fun _ => ⟨afterPayload, ?_, payloadRest⟩, fun missing => absurd holds missing⟩
  simp [readDaemonIpcFrame, magicRead, magic, headerRead, payloadLen,
    Nat.not_lt.mpr within, payloadRead, version, type, headFrame]

/-- The blocking reader accepts a frame, taking `k` bytes from the stream, exactly when
the buffered path accepts it with length `k`. -/
theorem readDaemonIpcFrame_iff (fd : Descriptor) (frame : DaemonIpcFrame) (k : Nat) :
    (∃ rest, readDaemonIpcFrame fd = (some frame, rest) ∧
        fd.bytes.length = k + rest.bytes.length ∧ rest.bytes = fd.bytes.drop k) ↔
      completeFrameLength fd.bytes = some k ∧
        decodeDaemonIpcFrame (fd.bytes.take k) = some frame := by
  rw [buffered_iff]
  obtain ⟨accepts, refuses⟩ := readDaemonIpcFrame_spec fd
  constructor
  · rintro ⟨rest, read, consumed, -⟩
    by_cases holds : HoldsFrame fd.bytes
    · obtain ⟨left, accepted, remaining⟩ := accepts holds
      have whole := holds.whole
      rw [read, Prod.mk.injEq, Option.some.injEq] at accepted
      obtain ⟨rfl, rfl⟩ := accepted
      rw [remaining, List.length_drop] at consumed
      exact ⟨holds, by omega, rfl⟩
    · have nothing := refuses holds
      rw [read] at nothing
      cases nothing
  · rintro ⟨holds, rfl, rfl⟩
    obtain ⟨rest, accepted, remaining⟩ := accepts holds
    refine ⟨rest, accepted, ?_, remaining⟩
    have whole := holds.whole
    rw [remaining, List.length_drop]
    omega

/-- The wire codecs are exact, an encoded frame is cut and decoded whatever follows it,
and the blocking and the buffered reader accept the same frames of every stream. -/
theorem daemonIpc_codecs_exact :
    ExactCodec encodeHandshakePayload decodeHandshakePayload (fun _ => True) ∧
    ExactCodec encodeHandshakeAckPayload decodeHandshakeAckPayload
      (fun v => v.buildVersion.length ≤ kDaemonIpcMaxPayloadSize) ∧
    ExactCodec encodeReserveSessionAckPayload decodeReserveSessionAckPayload (fun _ => True) ∧
    ExactCodec encodeAttachSessionPayload decodeAttachSessionPayload (fun _ => True) ∧
    ExactCodec encodeAttachSessionAckPayload decodeAttachSessionAckPayload (fun _ => True) ∧
    ExactCodec encodeSessionDataPayload decodeSessionDataPayload
      (fun data => data.length ≤ kDaemonIpcMaxSessionDataSize) ∧
    ExactCodec encodeErrorPayload decodeErrorPayload
      (fun v => v.message.length ≤ kDaemonIpcMaxPayloadSize) ∧
    (∀ (frame : DaemonIpcFrame) (rest : Bytes), Fits frame →
      decodeDaemonIpcFrame (encodeDaemonIpcFrame frame ++ rest) = some frame ∧
      completeFrameLength (encodeDaemonIpcFrame frame ++ rest) =
        some (encodeDaemonIpcFrame frame).length) ∧
    (∀ (fd : Descriptor) (frame : DaemonIpcFrame) (k : Nat),
      (∃ rest, readDaemonIpcFrame fd = (some frame, rest) ∧
          fd.bytes.length = k + rest.bytes.length ∧ rest.bytes = fd.bytes.drop k) ↔
        completeFrameLength fd.bytes = some k ∧
          decodeDaemonIpcFrame (fd.bytes.take k) = some frame) := by
  refine ⟨handshake_exact, handshakeAck_exact, port_exact, port_exact, port_exact,
    sessionData_exact, error_exact, ?_, readDaemonIpcFrame_iff⟩
  intro frame rest fits
  refine ⟨decodeDaemonIpcFrame_encode frame rest fits, ?_⟩
  have cut := completeFrameLength_of_cut frame (encodeDaemonIpcFrame frame ++ rest) [] rest fits
    (List.append_nil _)
  rwa [if_neg (by rw [List.length_append]; omega)] at cut

end Gemini.Daemon
