import PackGate.PktLine.Packet

/-! Packets read back as they were written, whatever payloads they carry and what follows them. -/

namespace PackGate.PktLine

/-! ## Lengths -/

/-- A byte is a decimal digit or one of the lower-case letters up to `f`. -/
def IsLowerHex (byte : UInt8) : Prop :=
  0x30 ≤ byte ∧ byte ≤ 0x39 ∨ 0x61 ≤ byte ∧ byte ≤ 0x66

/-- Each of the sixteen digits is written in lower case and read back as its own value. -/
theorem hexDigit_spec {digit : Nat} (small : digit < 16) :
    IsLowerHex (hexDigit digit) ∧ digitValue? (hexDigit digit) = some digit := by
  -- Sixteen digits, each checked against the ranges that the reader tests.
  have all : ∀ digit < 16,
      (0x30 ≤ hexDigit digit ∧ hexDigit digit ≤ 0x39 ∨ 0x61 ≤ hexDigit digit ∧
        hexDigit digit ≤ 0x66) ∧ digitValue? (hexDigit digit) = some digit := by decide
  exact all digit small

/-- A length is written with four digits, all of them in lower case. -/
theorem lengthDigits_shape (length : Nat) :
    (lengthDigits length).length = 4 ∧ ∀ digit ∈ lengthDigits length, IsLowerHex digit := by
  refine ⟨rfl, fun digit member => ?_⟩
  -- Each digit is that of a remainder, so it is one of the sixteen.
  have lower (value : Nat) : IsLowerHex (hexDigit (value % 16)) :=
    (hexDigit_spec (Nat.mod_lt value (by omega))).1
  simp only [lengthDigits, List.mem_cons, List.not_mem_nil, or_false] at member
  rcases member with rfl | rfl | rfl | rfl
  · exact lower (length / 4096)
  · exact lower (length / 256)
  · exact lower (length / 16)
  · exact lower length

/-- Four digits suffice for a length below 65536: what they spell is the length itself. -/
theorem lengthOf?_digits {length : Nat} (small : length < 65536) :
    lengthOf? (hexDigit (length / 4096 % 16)) (hexDigit (length / 256 % 16))
      (hexDigit (length / 16 % 16)) (hexDigit (length % 16)) = some length := by
  have value (number : Nat) : digitValue? (hexDigit (number % 16)) = some (number % 16) :=
    (hexDigit_spec (Nat.mod_lt number (by omega))).2
  -- The four remainders are the length in base sixteen; a fifth one would be zero.
  have whole : (length / 4096 % 16 * 16 + length / 256 % 16) * 256 +
      (length / 16 % 16 * 16 + length % 16) = length := by omega
  simp only [lengthOf?, value, bind, Option.bind, pure]
  rw [whole]

/-! ## Single packets -/

namespace Packet

/-- A payload is small enough for one packet. -/
def Fits : Packet → Prop
  | .flush => True
  | .data payload => payload.length ≤ maxPayload

end Packet

/-- A payload that is too large is not written at all. -/
theorem encode_large {payload : Bytes} (large : maxPayload < payload.length) :
    encode payload = .error ⟨payload.length⟩ := by
  rw [encode, if_neg (Nat.not_le.mpr large)]

/-- What is written of a payload is its length, in four digits, and the payload. -/
theorem encode_shape {payload written : Bytes} (encoded : encode payload = .ok written) :
    ∃ digits, written = digits ++ payload ∧ digits.length = 4 ∧
      ∀ digit ∈ digits, IsLowerHex digit := by
  unfold encode at encoded
  split at encoded
  · cases encoded
    exact ⟨_, rfl, lengthDigits_shape _⟩
  · cases encoded

/-- A payload that was written is read as this payload, and what follows it is left. -/
theorem read?_encode {payload : Bytes} (fits : payload.length ≤ maxPayload) :
    ∃ written, encode payload = .ok written ∧
      ∀ rest, Packet.read? (written ++ rest) = some (.data payload, rest) := by
  refine ⟨lengthDigits (payload.length + 4) ++ payload, by rw [encode, if_pos fits], ?_⟩
  intro rest
  have small : payload.length + 4 < 65536 := by
    unfold maxPayload at fits
    omega
  -- The length counts its own four digits, so that it is neither zero nor too short.
  have covers : ¬payload.length + 4 = 0 := by omega
  have enough : ¬(payload.length + 4 < 4 ∨ (payload ++ rest).length < payload.length + 4 - 4) := by
    rw [List.length_append]
    omega
  simp only [lengthDigits, List.cons_append, List.nil_append, Packet.read?,
    lengthOf?_digits small, bind, Option.bind, Bool.or_eq_true, decide_eq_true_eq]
  rw [if_neg covers, if_neg enough, Nat.add_sub_cancel]
  simp

/-- The end of a section is read as such, and what follows it is left. -/
theorem read?_flush (rest : Bytes) : Packet.read? (flush ++ rest) = some (.flush, rest) := by
  -- Four zeros spell a length that no payload has.
  have zero : lengthOf? 0x30 0x30 0x30 0x30 = some 0 := by decide
  simp [flush, Packet.read?, zero]

namespace Packet

/-- A packet that was written is read as this packet, and what follows it is left. -/
theorem read?_write {packet : Packet} (fits : packet.Fits) :
    ∃ written, packet.write = .ok written ∧
      ∀ rest, read? (written ++ rest) = some (packet, rest) := by
  cases packet with
  | flush => exact ⟨PktLine.flush, rfl, read?_flush⟩
  | data payload => exact read?_encode fits

/-! ## Rows of packets -/

/-- Packets that were written are read as these packets, and then comes what follows them. -/
theorem readMany?_writeAll {packets : List Packet} (fit : ∀ packet ∈ packets, packet.Fits) :
    ∃ written, writeAll packets = .ok written ∧ ∀ count rest,
      readMany? (packets.length + count) (written ++ rest) =
        (readMany? count rest).map fun (others, left) => (packets ++ others, left) := by
  -- The induction is on the packets, with the bytes behind them arbitrary.
  induction packets with
  | nil =>
    refine ⟨[], rfl, fun count rest => ?_⟩
    simp
  | cons packet others ih =>
    obtain ⟨first, wrote, reads⟩ := read?_write (fit packet List.mem_cons_self)
    obtain ⟨second, more, continues⟩ := ih fun other member =>
      fit other (List.mem_cons_of_mem _ member)
    refine ⟨first ++ second, ?_, fun count rest => ?_⟩
    · simp only [writeAll, wrote, more, bind, Except.bind, pure, Except.pure]
    · -- The first packet is taken off, and the reader is where the others begin.
      have longer : (packet :: others).length + count = others.length + count + 1 := by
        rw [List.length_cons]
        omega
      rw [longer, readMany?, List.append_assoc, reads]
      simp only [bind, Option.bind, pure, continues]
      cases readMany? count rest <;> rfl

end Packet

/-! ## Advertisements -/

/-- The payload that opens an advertisement of a service. -/
def opening (service : String) : Bytes :=
  Text.Utf8.encode s!"# service={service}\n"

/-- The name of the service stands between ten bytes and one. -/
theorem opening_eq (service : String) :
    opening service = Text.Utf8.encode "# service=" ++ Text.Utf8.encode service ++ [0x0A] := by
  simp [opening, Text.Utf8.encode]
  rfl

/-- The opening takes eleven bytes more than the name of the service. -/
theorem length_opening (service : String) :
    (opening service).length = (Text.Utf8.encode service).length + 11 := by
  have front : (Text.Utf8.encode "# service=").length = 10 := by decide
  rw [opening_eq, List.length_append, List.length_append, front, List.length_singleton]
  omega

/-- An advertisement is its opening, the end of a section, and the refs as git has listed them. -/
theorem advertisement_eq (service : String) (refs : Bytes) :
    advertisement (Text.Utf8.encode service) refs =
      (Packet.writeAll [.data (opening service), .flush]).map (· ++ refs) := by
  unfold advertisement announcement
  rw [← opening_eq]
  -- Both sides write the opening first, and come to nothing without it.
  cases wrote : encode (opening service) with
  | error fault => simp [Packet.writeAll, Packet.write, wrote, bind, Except.bind, Except.map]
  | ok written =>
    simp [Packet.writeAll, Packet.write, wrote, bind, Except.bind, pure, Except.pure, Except.map]

/--
Packets are uniquely readable: whatever their payloads, they are read back, and the rest is left.

Each payload stands behind four digits in lower case, and one that is too large is not written.
An advertisement reads as its opening and the end of a section, and then as its refs read.
-/
theorem packets_read_back :
    (∀ packets : List Packet, (∀ packet ∈ packets, packet.Fits) →
      ∃ written, Packet.writeAll packets = .ok written ∧
        ∀ rest, Packet.readMany? packets.length (written ++ rest) = some (packets, rest)) ∧
    (∀ payload written : Bytes, encode payload = .ok written →
      ∃ digits, written = digits ++ payload ∧ digits.length = 4 ∧
        ∀ digit ∈ digits, IsLowerHex digit) ∧
    (∀ payload : Bytes, maxPayload < payload.length →
      encode payload = .error ⟨payload.length⟩) ∧
    ∀ (service : String) (refs : Bytes),
      ((Text.Utf8.encode service).length ≤ 65520 →
        ∃ written, advertisement (Text.Utf8.encode service) refs = .ok written ∧
          ∀ count, Packet.readMany? (count + 2) written =
            (Packet.readMany? count refs).map fun (packets, left) =>
              (.data (Text.Utf8.encode s!"# service={service}\n") :: .flush :: packets, left)) ∧
      (65520 < (Text.Utf8.encode service).length →
        advertisement (Text.Utf8.encode service) refs =
          .error ⟨(Text.Utf8.encode service).length + 11⟩) := by
  refine ⟨?_, fun payload written => encode_shape, fun payload => encode_large, ?_⟩
  · intro packets fit
    obtain ⟨written, wrote, reads⟩ := Packet.readMany?_writeAll fit
    refine ⟨written, wrote, fun rest => ?_⟩
    -- Nothing more is read behind the packets.
    simpa [Packet.readMany?] using reads 0 rest
  intro service refs
  have length := length_opening service
  rw [advertisement_eq]
  constructor
  · intro short
    have fit : ∀ packet ∈ [Packet.data (opening service), .flush], packet.Fits := by
      simp only [List.forall_mem_cons, Packet.Fits, maxPayload]
      exact ⟨by omega, trivial, by simp⟩
    obtain ⟨written, wrote, reads⟩ := Packet.readMany?_writeAll fit
    refine ⟨written ++ refs, by rw [wrote]; rfl, fun count => ?_⟩
    rw [Nat.add_comm]
    exact reads count refs
  · intro long
    have large : maxPayload < (opening service).length := by
      unfold maxPayload
      omega
    simp only [Packet.writeAll, Packet.write, encode_large large, length, bind, Except.bind,
      Except.map]

/-- A payload that looks like the end of a section, an empty one and an end are told apart. -/
theorem packets_read_back_flush :
    ∃ written, Packet.writeAll [.data flush, .flush, .data []] = .ok written ∧
      Packet.readMany? 3 (written ++ flush) = some ([.data flush, .flush, .data []], flush) ∧
      ∃ advertised, advertisement (Text.Utf8.encode "git-upload-pack") flush = .ok advertised ∧
        Packet.readMany? 3 advertised =
          some ([.data (Text.Utf8.encode "# service=git-upload-pack\n"), .flush, .flush], []) := by
  obtain ⟨rows, _, _, advertisements⟩ := packets_read_back
  have fit : ∀ packet ∈ [Packet.data flush, .flush, .data []], packet.Fits := by
    simp [Packet.Fits, flush, maxPayload]
  obtain ⟨written, wrote, reads⟩ := rows _ fit
  have short : (Text.Utf8.encode "git-upload-pack").length ≤ 65520 := by decide
  obtain ⟨advertised, made, lists⟩ := (advertisements "git-upload-pack" flush).1 short
  exact ⟨written, wrote, reads flush, advertised, made, lists 1⟩

end PackGate.PktLine
