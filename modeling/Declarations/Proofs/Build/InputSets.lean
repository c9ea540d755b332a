/-
This file says what the fingerprint of inputs tells apart. A digest is written in digits that
show each of its bytes, and the line of an input ends in 64 digits and a line end, so a listing
shows which inputs it lists, in whatever way their names are written. Fingerprints of inputs are
the same, then, exactly where the inputs are, unless two listings have one digest.
-/

import Declarations.Proofs.Build.Entries
import Declarations.Proofs.Build.Reordering

namespace Declarations

/-! ### Messages -/

namespace Sha256

/-- The bytes of a text, of which its digest is made. -/
def message (text : String) : List UInt8 :=
  text.toUTF8.toList

theorem toList_loop (bytes : ByteArray) (place : Nat) (taken : List UInt8) :
    ByteArray.toList.loop bytes place taken = taken.reverse ++ bytes.data.toList.drop place := by
  fun_induction ByteArray.toList.loop bytes place taken with
  | case1 place taken inside inductionHypothesis =>
    have among : place < bytes.data.toList.length := inside
    have first : bytes.get! place = bytes.data.toList[place] := by
      simp [ByteArray.get!, inside]
    rw [inductionHypothesis, List.reverse_cons, List.append_assoc,
      List.drop_eq_getElem_cons among, first]
    rfl
  | case2 place taken outside =>
    rw [List.drop_eq_nil_of_le (Nat.le_of_not_lt outside), List.append_nil]

theorem message_inj {first second : String} (same : message first = message second) :
    first = second := by
  have bytes : ∀ text, message text = text.toByteArray.data.toList := fun text =>
    toList_loop text.toByteArray 0 []
  rw [bytes, bytes] at same
  exact String.toByteArray_inj.mp (ByteArray.ext (Array.toList_inj.mp same))

/-! ### Digits -/

theorem length_bytesOf (count value : Nat) : (bytesOf count value).length = count := by
  induction count generalizing value with
  | zero => rfl
  | succ count inductionHypothesis =>
    rw [bytesOf, List.length_append, inductionHypothesis, List.length_singleton]

/-- A digest has four bytes for each of its eight words. -/
theorem length_digest (message : List UInt8) : (digest message).length = 32 := by
  simp [digest, State.words, length_bytesOf]

/-- The digits to the base sixteen, in small letters and in capital ones. -/
def digits : List Char :=
  "0123456789abcdefABCDEF".toList

theorem digitChar_mem_digits : ∀ value < 16, Nat.digitChar value ∈ digits := by
  decide

theorem digitChar_inj : ∀ value < 16, ∀ other < 16, Nat.digitChar value = Nat.digitChar other →
    value = other := by
  decide

/-- The two digits of a byte show its two halves. -/
theorem hexByte_inj {first second : UInt8} (same : hexByte first = hexByte second) :
    first = second := by
  have small := first.toNat_lt
  have otherSmall := second.toNat_lt
  obtain ⟨highDigit, lowDigits⟩ := List.cons.inj same
  have high := digitChar_inj _ (by omega) _ (by omega) highDigit
  have low := digitChar_inj _ (by omega) _ (by omega) (List.cons.inj lowDigits).1
  exact UInt8.toNat_inj.mp (by omega)

theorem flatMap_hexByte_inj :
    ∀ {first second : List UInt8}, first.flatMap hexByte = second.flatMap hexByte → first = second
  | [], [], _ => rfl
  | [], _ :: _, same => by cases same
  | _ :: _, [], same => by cases same
  | byte :: first, other :: second, same => by
    rw [List.flatMap_cons, List.flatMap_cons] at same
    obtain ⟨digits, rest⟩ := List.append_inj same rfl
    rw [hexByte_inj digits, flatMap_hexByte_inj rest]

/-- Texts with the same digits have the same digest. -/
theorem digest_eq_of_hex {first second : String} (same : hex first = hex second) :
    digest (message first) = digest (message second) :=
  flatMap_hexByte_inj (String.ofList_inj.mp same)

/-- Whether the digests of some messages tell them apart. -/
def Apart (messages : List (List UInt8)) : Prop :=
  ∀ first ∈ messages, ∀ second ∈ messages, digest first = digest second → first = second

theorem apart_pair {first second : List UInt8} (differ : digest first ≠ digest second) :
    Apart [first, second] := by
  intro one member other among same
  rcases List.mem_pair.mp member with rfl | rfl <;> rcases List.mem_pair.mp among with rfl | rfl
  · rfl
  · exact absurd same differ
  · exact absurd same.symm differ
  · rfl

end Sha256

/-! ### Listings -/

namespace Fingerprint

/-- Whether a text is written as a fingerprint is: in 64 digits. -/
structure IsWritten (text : String) : Prop where
  width : text.toList.length = 64
  digits : ∀ character ∈ text.toList, character ∈ Sha256.digits

theorem isWritten_ofText (text : String) : IsWritten (ofText text) where
  width := by
    have pairs : (fun byte => (Sha256.hexByte byte).length) = fun _ => 2 := rfl
    rw [ofText, Sha256.hex, String.toList_ofList, List.length_flatMap, pairs, List.map_const',
      List.sum_replicate, Sha256.length_digest]
    rfl
  digits character member := by
    rw [ofText, Sha256.hex, String.toList_ofList] at member
    obtain ⟨byte, -, among⟩ := List.mem_flatMap.mp member
    have small := byte.toNat_lt
    rcases List.mem_pair.mp among with rfl | rfl
    · exact Sha256.digitChar_mem_digits _ (by omega)
    · exact Sha256.digitChar_mem_digits _ (by omega)

/-- Whether an input has a name on one line and a fingerprint. -/
structure IsInput (input : String × String) : Prop where
  oneLine : '\n' ∉ input.1.toList
  written : IsWritten input.2

variable {inputs others : List (String × String)}

theorem toList_line (input : String × String) :
    (line input).toList = (input.1.toList ++ ':' :: input.2.toList) ++ ['\n'] := by
  simp [line]

/-- What stands before the end of the line of an input. -/
theorem IsInput.notMem_line {input : String × String} (isInput : IsInput input) :
    '\n' ∉ input.1.toList ++ ':' :: input.2.toList := by
  have noDigit : '\n' ∉ ':' :: Sha256.digits := by decide
  rw [List.mem_append, not_or]
  refine ⟨isInput.oneLine, fun member => noDigit ?_⟩
  rw [List.mem_cons] at member ⊢
  exact member.imp_right (isInput.written.digits _)

/-- A name may hold colons and digits, but the last 64 characters of its line are not part of it. -/
theorem IsInput.eq_of_line {first second : String × String} (isInput : IsInput first)
    (otherInput : IsInput second)
    (same : first.1.toList ++ ':' :: first.2.toList = second.1.toList ++ ':' :: second.2.toList) :
    first = second := by
  have width : (':' :: first.2.toList).length = (':' :: second.2.toList).length := by
    rw [List.length_cons, List.length_cons, isInput.written.width, otherInput.written.width]
  obtain ⟨name, rest⟩ := List.append_inj' same width
  exact Prod.ext (String.toList_inj.mp name) (String.toList_inj.mp (List.cons.inj rest).2)

/-- Lines show which inputs they stand for. -/
theorem eq_of_lines :
    ∀ {inputs others : List (String × String)}, (∀ input ∈ inputs, IsInput input) →
      (∀ input ∈ others, IsInput input) →
      String.join (inputs.map line) = String.join (others.map line) → inputs = others
  | [], [], _, _, _ => rfl
  | [], input :: rest, _, _, same => by
    have lines := congrArg String.toList same
    simp [toList_line] at lines
  | input :: rest, [], _, _, same => by
    have lines := congrArg String.toList same
    simp [toList_line] at lines
  | input :: rest, other :: others, areInputs, otherInputs, same => by
    obtain ⟨isInput, restInputs⟩ := List.forall_mem_cons.mp areInputs
    obtain ⟨otherInput, moreInputs⟩ := List.forall_mem_cons.mp otherInputs
    have lines := congrArg String.toList same
    rw [List.map_cons, List.map_cons, String.join_cons, String.join_cons, String.toList_append,
      String.toList_append, toList_line, toList_line, List.append_assoc _ ['\n'],
      List.append_assoc _ ['\n']] at lines
    obtain ⟨head, tail⟩ := Origin.line_append_inj isInput.notMem_line otherInput.notMem_line lines
    rw [isInput.eq_of_line otherInput head,
      eq_of_lines restInputs moreInputs (String.toList_inj.mp tail)]

/-- Inputs with the same listing are the same, as often as they are given. -/
theorem perm_of_listing (areInputs : ∀ input ∈ inputs, IsInput input)
    (otherInputs : ∀ input ∈ others, IsInput input) (same : listing inputs = listing others) :
    inputs.Perm others := by
  have sorted : inputs.mergeSort precedes = others.mergeSort precedes :=
    eq_of_lines (fun input member => areInputs input (List.mem_mergeSort.mp member))
      (fun input member => otherInputs input (List.mem_mergeSort.mp member)) same
  have permuted := (List.mergeSort_perm inputs precedes).symm
  rw [sorted] at permuted
  exact permuted.trans (List.mergeSort_perm others precedes)

/-- Inputs with the same fingerprint are the same, unless their listings have one digest. -/
theorem perm_of_ofInputs (areInputs : ∀ input ∈ inputs, IsInput input)
    (otherInputs : ∀ input ∈ others, IsInput input)
    (apart : Sha256.Apart [Sha256.message (listing inputs), Sha256.message (listing others)])
    (same : ofInputs inputs = ofInputs others) : inputs.Perm others :=
  perm_of_listing areInputs otherInputs <| Sha256.message_inj <|
    apart _ List.mem_cons_self _ (List.mem_cons_of_mem _ List.mem_cons_self)
      (Sha256.digest_eq_of_hex same)

/-- Two lists of inputs have one fingerprint exactly where each input stands in both as often, as
long as the digests of their listings tell these apart. -/
theorem ofInputs_eq_iff_perm (areInputs : ∀ input ∈ inputs, IsInput input)
    (otherInputs : ∀ input ∈ others, IsInput input)
    (apart : Sha256.Apart [Sha256.message (listing inputs), Sha256.message (listing others)]) :
    ofInputs inputs = ofInputs others ↔ inputs.Perm others :=
  ⟨perm_of_ofInputs areInputs otherInputs apart, ofInputs_perm⟩

/-- A name that ends like a line does, and an input that is given twice. -/
def sampleInputs : List (String × String) :=
  [("a:e3b0c44298fc1c149afbf4c8996fb92427ae41e4649b934ca495991b7852b855",
      "0000000000000000000000000000000000000000000000000000000000000000"),
    ("b", "E3B0C44298FC1C149AFBF4C8996FB92427AE41E4649B934CA495991B7852B855"),
    ("b", "E3B0C44298FC1C149AFBF4C8996FB92427AE41E4649B934CA495991B7852B855")]

theorem isInput_sampleInputs : ∀ input ∈ sampleInputs, IsInput input := by
  have lines : ∀ input ∈ sampleInputs, '\n' ∉ input.1.toList := by decide
  have widths : ∀ input ∈ sampleInputs, input.2.toList.length = 64 := by decide
  have digits : (sampleInputs.all fun input =>
      input.2.toList.all (Sha256.digits.contains ·)) = true := by decide +kernel
  simp only [List.all_eq_true, List.contains_iff_mem] at digits
  exact fun input member => ⟨lines input member, widths input member, digits input member⟩

/-- The order of inputs is not told apart, but how often an input is given is. -/
theorem ofInputs_sampleInputs :
    ofInputs sampleInputs = ofInputs sampleInputs.reverse ∧
      ofInputs sampleInputs.tail ≠ ofInputs sampleInputs.tail.tail := by
  have reversed : ∀ input ∈ sampleInputs.reverse, IsInput input := fun input member =>
    isInput_sampleInputs input (List.mem_reverse.mp member)
  have tail : ∀ input ∈ sampleInputs.tail, IsInput input := fun input member =>
    isInput_sampleInputs input (List.mem_of_mem_tail member)
  have twice : listing sampleInputs.tail = String.join (sampleInputs.tail.map line) := by
    rw [listing, List.mergeSort_of_pairwise (by decide)]
  have once : listing sampleInputs.tail.tail = String.join (sampleInputs.tail.tail.map line) := by
    rw [listing, List.mergeSort_of_pairwise (by decide)]
  have differ : Sha256.digest (Sha256.message (listing sampleInputs.tail)) ≠
      Sha256.digest (Sha256.message (listing sampleInputs.tail.tail)) := by
    rw [twice, once]
    decide +kernel
  refine ⟨(ofInputs_eq_iff_perm isInput_sampleInputs reversed ?_).mpr (List.reverse_perm _).symm,
    fun same => ?_⟩
  · rw [listing_perm (List.reverse_perm sampleInputs)]
    simp [Sha256.Apart]
  · have permuted := (ofInputs_eq_iff_perm tail (fun input member => tail input
      (List.mem_of_mem_tail member)) (Sha256.apart_pair differ)).mp same
    exact absurd permuted.length_eq (by decide)

end Fingerprint

/-! ### Builds -/

namespace Analysis

/-- The inputs that can be read, each with its fingerprint. -/
def inputsOf (disk : Disk) (options : LoweringOptions) (sources : List BuildSource) :
    List (String × String) :=
  sources.filterMap fun source =>
    match Origin.ofSource disk options source with
    | .ok origin => some (source.module, origin.fingerprint)
    | .error _ => none

variable {disk after : Disk} {options others : LoweringOptions} {sources more : List BuildSource}

/-- The inputs of a build are well written where its modules have names on one line. -/
theorem isInput_of_mem_inputsOf (oneLine : ∀ source ∈ sources, '\n' ∉ source.module.toList)
    {input : String × String} (member : input ∈ inputsOf disk options sources) :
    Fingerprint.IsInput input := by
  obtain ⟨source, among, read⟩ := List.mem_filterMap.mp member
  cases origin : Origin.ofSource disk options source with
  | error problem =>
    rw [origin] at read
    cases read
  | ok origin =>
    rw [origin] at read
    cases read
    exact ⟨oneLine source among, Fingerprint.isWritten_ofText _⟩

/-- A build whose inputs have the fingerprint of another finds each module of it unchanged. -/
theorem inputsOf_perm (oneLine : ∀ source ∈ sources, '\n' ∉ source.module.toList)
    (otherLine : ∀ source ∈ more, '\n' ∉ source.module.toList)
    (apart : Sha256.Apart [Sha256.message (Fingerprint.listing (inputsOf disk options sources)),
      Sha256.message (Fingerprint.listing (inputsOf after others more))])
    (same : inputsFingerprint disk options sources = inputsFingerprint after others more) :
    (inputsOf disk options sources).Perm (inputsOf after others more) :=
  Fingerprint.perm_of_ofInputs (fun _ => isInput_of_mem_inputsOf oneLine)
    (fun _ => isInput_of_mem_inputsOf otherLine) apart same

end Analysis

end Declarations
