import SipGateway.Infra.Bytes

/-!
# RIFF files

A file in the Resource Interchange File Format is a chunk with the name `RIFF`: a form type, and
chunks again. A chunk is a name of four bytes, the length of its data in four bytes with the lowest
one first, and the data, with a byte behind it when their number is odd.

* `RiffChunk.next?_encode` — a chunk is read back, with what comes behind it
* `RiffChunk.chunks_flatMap_encode` — so are chunks one after the other
* `RiffFile.decode_encode` — and a file
-/

namespace Infra

/-! ## Numbers -/

/-- A number in so many bytes, the lowest one first. -/
def littleEndian : Nat → Nat → Bytes
  | 0, _ => []
  | n + 1, v => UInt8.ofNat v :: littleEndian n (v / 256)

/-- The number that bytes stand for, the lowest one first. -/
def leValue : Bytes → Nat
  | [] => 0
  | b :: rest => b.toNat + 256 * leValue rest

@[simp] theorem length_littleEndian (n v : Nat) : (littleEndian n v).length = n := by
  induction n generalizing v with
  | zero => rfl
  | succ n ih => rw [littleEndian, List.length_cons, ih]

theorem leValue_littleEndian {n v : Nat} (h : v < 256 ^ n) : leValue (littleEndian n v) = v := by
  induction n generalizing v with
  | zero =>
    rw [Nat.pow_zero] at h
    exact (Nat.lt_one_iff.mp h).symm
  | succ n ih =>
    have hrest : v / 256 < 256 ^ n := Nat.div_lt_of_lt_mul (by rwa [Nat.pow_succ'] at h)
    rw [littleEndian, leValue, ih hrest, UInt8.toNat_ofNat']
    exact Nat.mod_add_div v 256

/-- Only so many bytes of a number count. -/
theorem littleEndian_mod (n v : Nat) : littleEndian n (v % 256 ^ n) = littleEndian n v := by
  induction n generalizing v with
  | zero => rfl
  | succ n ih =>
    have hlow : UInt8.ofNat (v % 256 ^ (n + 1)) = UInt8.ofNat v := by
      rw [← UInt8.toNat_inj, UInt8.toNat_ofNat', UInt8.toNat_ofNat', Nat.pow_succ']
      exact Nat.mod_mul_right_mod v 256 (256 ^ n)
    have hrest : v % 256 ^ (n + 1) / 256 = v / 256 % 256 ^ n := by
      rw [Nat.pow_succ', Nat.mod_mul_right_div_self]
    rw [littleEndian, littleEndian, hlow, hrest, ih]

theorem leValue_lt (data : Bytes) : leValue data < 256 ^ data.length := by
  induction data with
  | nil => exact Nat.one_pos
  | cons b rest ih =>
    have hb := b.toNat_lt
    rw [leValue, List.length_cons, Nat.pow_succ']
    omega

/-! ## Chunks -/

/-- A chunk: its name, and as much data as four bytes can count. -/
structure RiffChunk where
  id : Bytes
  data : Bytes
  id_length : id.length = 4
  data_length : data.length < 4294967296
deriving DecidableEq

namespace RiffChunk

variable {chunk : RiffChunk} {stream rest : Bytes}

/-- The byte behind an odd number of bytes. -/
def padding (n : Nat) : Bytes := List.replicate (n % 2) 0

def encode (chunk : RiffChunk) : Bytes :=
  chunk.id ++ (littleEndian 4 chunk.data.length ++ (chunk.data ++ padding chunk.data.length))

/-- The length a stream gives for its first chunk. -/
def sizeField (stream : Bytes) : Nat := leValue ((stream.drop 4).take 4)

theorem sizeField_lt (stream : Bytes) : sizeField stream < 4294967296 := by
  have hlen : ((stream.drop 4).take 4).length ≤ 4 := List.length_take_le _ _
  calc leValue ((stream.drop 4).take 4)
      < 256 ^ ((stream.drop 4).take 4).length := leValue_lt _
    _ ≤ 256 ^ 4 := Nat.pow_le_pow_right (by decide) hlen

/-- The first chunk of a stream, if it is complete, and what comes behind it. -/
def next? (stream : Bytes) : Option (RiffChunk × Bytes) :=
  if h : 8 + sizeField stream + sizeField stream % 2 ≤ stream.length then
    some ({ id := stream.take 4
            data := (stream.drop 8).take (sizeField stream)
            id_length := List.length_take_of_le (by omega)
            data_length := (List.length_take_le _ _).trans_lt (sizeField_lt stream) },
      stream.drop (8 + sizeField stream + sizeField stream % 2))
  else none

theorem next?_length (h : next? stream = some (chunk, rest)) : rest.length < stream.length := by
  unfold next? at h
  split at h
  · cases h
    rw [List.length_drop]
    omega
  · cases h

theorem length_encode (chunk : RiffChunk) :
    chunk.encode.length = 8 + chunk.data.length + chunk.data.length % 2 := by
  unfold encode padding
  simp only [List.length_append, List.length_replicate, length_littleEndian, chunk.id_length]
  omega

theorem sizeField_encode (chunk : RiffChunk) (rest : Bytes) :
    sizeField (chunk.encode ++ rest) = chunk.data.length := by
  unfold sizeField encode
  rw [List.append_assoc, List.drop_left' chunk.id_length, List.append_assoc,
    List.take_left' (length_littleEndian _ _), leValue_littleEndian chunk.data_length]

/-- A chunk that was written is read back. -/
theorem next?_encode (chunk : RiffChunk) (rest : Bytes) :
    next? (chunk.encode ++ rest) = some (chunk, rest) := by
  have hsize := sizeField_encode chunk rest
  have hlen := length_encode chunk
  have hid : (chunk.encode ++ rest).take 4 = chunk.id := by
    unfold encode
    rw [List.append_assoc, List.take_left' chunk.id_length]
  have hdata : ((chunk.encode ++ rest).drop 8).take chunk.data.length = chunk.data := by
    have hhead : (chunk.id ++ littleEndian 4 chunk.data.length).length = 8 := by
      rw [List.length_append, chunk.id_length, length_littleEndian]
    unfold encode
    rw [← List.append_assoc, List.append_assoc, List.drop_left' hhead, List.append_assoc,
      List.take_left' rfl]
  unfold next?
  rw [dif_pos (by rw [hsize, List.length_append]; omega)]
  simp only [hsize, ← hlen, List.drop_left, hid, hdata]

/-- All chunks of a stream, if it holds nothing else. -/
def chunks (stream : Bytes) : Option (List RiffChunk) :=
  if stream = [] then some []
  else
    match _h : next? stream with
    | none => none
    | some (chunk, rest) => (chunks rest).map (chunk :: ·)
termination_by stream.length
decreasing_by exact next?_length _h

theorem chunks_nil : chunks [] = some [] := by
  rw [chunks, if_pos rfl]

theorem chunks_of_next? (h : next? stream = some (chunk, rest)) :
    chunks stream = (chunks rest).map (chunk :: ·) := by
  have hne : stream ≠ [] := by
    rintro rfl
    exact absurd (next?_length h) (Nat.not_lt_zero _)
  rw [chunks, if_neg hne]
  split
  · next hnone => exact absurd (hnone.symm.trans h) (by simp)
  · next chunk' rest' hsome =>
    cases hsome.symm.trans h
    rfl

/-- Chunks that were written one after the other are read back. -/
theorem chunks_flatMap_encode (cs : List RiffChunk) : chunks (cs.flatMap encode) = some cs := by
  induction cs with
  | nil => exact chunks_nil
  | cons chunk cs ih =>
    rw [List.flatMap_cons, chunks_of_next? (next?_encode chunk _), ih]
    rfl

end RiffChunk

/-! ## Files -/

/-- What a file holds: the length it gives for itself, the form type and the chunks. -/
structure RiffFile where
  size : Nat
  form : Bytes
  chunks : List RiffChunk
deriving DecidableEq

namespace RiffFile

/-- A file that is one `RIFF` chunk, from its first byte to its last. -/
def decode (file : Bytes) : Option RiffFile :=
  match RiffChunk.next? file with
  | some (chunk, []) =>
    if chunk.id = bytes "RIFF" then
      (RiffChunk.chunks (chunk.data.drop 4)).map fun cs =>
        { size := chunk.data.length, form := chunk.data.take 4, chunks := cs }
    else none
  | _ => none

/-- A file that was written is read back. -/
theorem decode_encode {chunk : RiffChunk} {form : Bytes} {cs : List RiffChunk}
    (hid : chunk.id = bytes "RIFF") (hform : form.length = 4)
    (hdata : chunk.data = form ++ cs.flatMap RiffChunk.encode) :
    decode chunk.encode = some { size := chunk.data.length, form := form, chunks := cs } := by
  have hnext := RiffChunk.next?_encode chunk []
  rw [List.append_nil] at hnext
  unfold decode
  rw [hnext]
  dsimp only
  rw [if_pos hid, hdata, List.drop_left' hform, List.take_left' hform,
    RiffChunk.chunks_flatMap_encode]
  rfl

end RiffFile

end Infra
