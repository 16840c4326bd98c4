/-
  Layouts with fields at fixed offsets.

  A buffer of zeros is filled by copying bytes to offsets (`copy`), in particular
  big-endian integers (`put`), and the integers are read at the offsets (`get`).
-/
import GraphX.Lib.Codec

namespace Layout

open Codec List

abbrev Buffer := List UInt8

/-! ## Writing -/

def copy (out : Buffer) (offset : ℕ) (bytes : Buffer) : Buffer :=
  out.take offset ++ bytes ++ out.drop (offset + bytes.length)

/-- The `count` low-order bytes of the value are written, the highest first. -/
def put (out : Buffer) (offset value count : ℕ) : Buffer := copy out offset (toBE count value)

/-- What the table leaves in a buffer of zeros from `start` on. -/
def filled : (start : ℕ) → List (ℕ × Buffer) → Buffer
  | _, [] => []
  | start, (offset, bytes) :: table =>
    List.replicate (offset - start) 0 ++ bytes ++ filled (offset + bytes.length) table

/-- The entries of the table come one after the other. -/
def Increasing : (start : ℕ) → List (ℕ × Buffer) → Prop
  | _, [] => True
  | start, (offset, bytes) :: table => start ≤ offset ∧ Increasing (offset + bytes.length) table

theorem copy_zeros {w : Buffer} {offset : ℕ} (h : w.length ≤ offset) (bytes : Buffer) (k : ℕ) :
    copy (w ++ replicate (offset - w.length + bytes.length + k) 0) offset bytes =
      w ++ replicate (offset - w.length) 0 ++ bytes ++ replicate k 0 := by
  have htake : (w ++ replicate (offset - w.length + bytes.length + k) (0 : UInt8)).take offset =
      w ++ replicate (offset - w.length) 0 := by
    rw [take_append, take_of_length_le h, take_replicate]
    congr 2
    omega
  have hdrop : (w ++ replicate (offset - w.length + bytes.length + k) (0 : UInt8)).drop
      (offset + bytes.length) = replicate k 0 := by
    rw [drop_append, drop_of_length_le (by omega), nil_append, drop_replicate]
    congr 1
    omega
  rw [copy, htake, hdrop]

/-- **A table that is copied to zeros.** -/
theorem foldl_copy {table : List (ℕ × Buffer)} {w : Buffer} (h : Increasing w.length table) (k : ℕ) :
    table.foldl (fun out e => copy out e.1 e.2)
        (w ++ replicate ((filled w.length table).length + k) 0) =
      w ++ filled w.length table ++ replicate k 0 := by
  induction table generalizing w with
  | nil => simp [filled]
  | cons e table ih =>
    obtain ⟨offset, bytes⟩ := e
    obtain ⟨hle, hrest⟩ := h
    have hlength : (w ++ replicate (offset - w.length) 0 ++ bytes).length =
        offset + bytes.length := by
      simp only [length_append, length_replicate]
      omega
    have hzeros := copy_zeros hle bytes ((filled (offset + bytes.length) table).length + k)
    have hcount : (filled w.length ((offset, bytes) :: table)).length + k =
        offset - w.length + bytes.length + ((filled (offset + bytes.length) table).length + k) := by
      simp only [filled, length_append, length_replicate]
      omega
    rw [foldl_cons, hcount, hzeros, filled]
    rw [← hlength] at hrest ⊢
    rw [ih hrest]
    simp only [append_assoc]

theorem copy_here (w bytes : Buffer) (k : ℕ) :
    copy (w ++ replicate (bytes.length + k) 0) w.length bytes =
      w ++ bytes ++ replicate k 0 := by
  have h := copy_zeros (le_refl w.length) bytes k
  simpa using h

/-! ## Reading -/

/-- The integer whose `count` bytes stand at the offset. -/
def get (bytes : Buffer) (offset count : ℕ) : ℕ := ofBE ((bytes.drop offset).take count)

theorem get_lt (bytes : Buffer) (offset count : ℕ) : get bytes offset count < 256 ^ count := by
  refine (ofBE_lt _).trans_le (Nat.pow_le_pow_right (by norm_num) ?_)
  simp

/-- Integers one after the other: the width of each, and its value. -/
def flat (fields : List (ℕ × ℕ)) : Buffer := fields.flatMap fun f => toBE f.1 f.2

def readAll (bytes : Buffer) : (offset : ℕ) → List ℕ → List (ℕ × ℕ)
  | _, [] => []
  | offset, count :: widths =>
    (count, get bytes offset count) :: readAll bytes (offset + count) widths

theorem flat_cons (f : ℕ × ℕ) (fields : List (ℕ × ℕ)) :
    flat (f :: fields) = toBE f.1 f.2 ++ flat fields := rfl

@[simp] theorem length_flat (fields : List (ℕ × ℕ)) :
    (flat fields).length = (fields.map Prod.fst).sum := by
  simp [flat]

/-- **What is read are the fields**, if they fit in their widths. -/
theorem readAll_flat {front rest : Buffer} {fields : List (ℕ × ℕ)}
    (h : ∀ f ∈ fields, f.2 < 256 ^ f.1) :
    readAll (front ++ flat fields ++ rest) front.length (fields.map Prod.fst) = fields := by
  induction fields generalizing front with
  | nil => rfl
  | cons f fields ih =>
    obtain ⟨count, value⟩ := f
    obtain ⟨hvalue, hrest⟩ := forall_mem_cons.1 h
    have hdrop : (front ++ flat ((count, value) :: fields) ++ rest).drop front.length =
        toBE count value ++ (flat fields ++ rest) := by
      rw [flat_cons, append_assoc, drop_left, append_assoc]
    have hget : get (front ++ flat ((count, value) :: fields) ++ rest) front.length count = value := by
      rw [get, hdrop, take_left' (length_toBE count value), ofBE_toBE]
      exact Nat.mod_eq_of_lt hvalue
    have hassoc : front ++ flat ((count, value) :: fields) ++ rest =
        front ++ toBE count value ++ flat fields ++ rest := by
      rw [flat_cons, ← append_assoc]
    have hih := @ih (front ++ toBE count value) hrest
    rw [length_append, length_toBE] at hih
    rw [map_cons, readAll, hget, hassoc, hih]

/-- **Bytes are the fields that are read from them.** -/
theorem flat_readAll {bytes : Buffer} {widths : List ℕ} {offset : ℕ}
    (h : offset + widths.sum ≤ bytes.length) :
    flat (readAll bytes offset widths) = (bytes.drop offset).take widths.sum := by
  induction widths generalizing offset with
  | nil => simp [readAll, flat]
  | cons count widths ih =>
    rw [sum_cons] at h ⊢
    have hlength : ((bytes.drop offset).take count).length = count := by
      rw [length_take, length_drop]
      omega
    have hfield : toBE count (get bytes offset count) = (bytes.drop offset).take count := by
      have := toBE_ofBE ((bytes.drop offset).take count)
      rwa [hlength] at this
    rw [readAll, flat_cons, hfield, ih (by omega), take_add, drop_drop]

theorem readAll_replicate (bytes : Buffer) (offset count n : ℕ) :
    readAll bytes offset (replicate n count) =
      (range n).map fun i => (count, get bytes (offset + count * i) count) := by
  induction n generalizing offset with
  | zero => rfl
  | succ n ih =>
    rw [replicate_succ, readAll, ih, range_succ_eq_map, map_cons, map_map,
      mul_zero]
    congr 1
    refine map_congr_left fun i _ => ?_
    simp only [Function.comp_apply, Nat.mul_succ]
    congr 2
    omega

/-- **The elements of an array that are written to zeros**, the first of them having the
    index `i`. -/
theorem foldl_array {α : Type} (f : α → ℕ) {w : Buffer} {values : List α} {offset count i : ℕ}
    (h : w.length = offset + count * i) (k : ℕ) :
    (values.zipIdx i).foldl (fun out p => put out (offset + count * p.2) (f p.1) count)
        (w ++ replicate (count * values.length + k) 0) =
      w ++ flat (values.map fun v => (count, f v)) ++ replicate k 0 := by
  induction values generalizing w i with
  | nil => simp [flat]
  | cons v values ih =>
    have hlength : (w ++ toBE count (f v)).length = offset + count * (i + 1) := by
      rw [length_append, length_toBE, h, mul_add, mul_one, add_assoc]
    have hcount : count * (v :: values).length + k =
        (toBE count (f v)).length + (count * values.length + k) := by
      rw [length_toBE, length_cons, mul_add]
      omega
    rw [zipIdx_cons, foldl_cons, put, ← h, hcount, copy_here, ih hlength, map_cons,
      flat_cons]
    simp only [append_assoc]

end Layout
