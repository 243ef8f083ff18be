import CarCleaner.Foundation.CString

/-!
# UTF-8 with the errors ignored

A decoder that skips what is no character, and what it makes of texts that were cut at a
number of bytes or that have zero bytes behind them.  A cut loses the characters that do
not fit and nothing else.
-/

namespace CarCleaner
namespace Foundation

/-!
# Encoding
-/

def utf8 (text : List Char) : List UInt8 :=
  text.flatMap String.utf8EncodeChar

theorem utf8_cons (c : Char) (text : List Char) :
    utf8 (c :: text) = String.utf8EncodeChar c ++ utf8 text :=
  List.flatMap_cons

def decodeChar? (bytes : List UInt8) : Option Char :=
  bytes.toByteArray.utf8DecodeChar? 0

theorem decodeChar?_eq_some_iff {bytes : List UInt8} {c : Char} :
    decodeChar? bytes = some c <-> exists rest, bytes = String.utf8EncodeChar c ++ rest := by
  constructor
  · intro h
    rcases ByteArray.exists_of_utf8DecodeChar?_eq_some h with ⟨rest, hrest⟩
    refine ⟨rest.data.toList, ?_⟩
    have hdata := congrArg (fun b : ByteArray => b.data.toList) hrest
    simpa using hdata
  · intro h
    rcases h with ⟨rest, hrest⟩
    rw [hrest, decodeChar?, List.toByteArray_append]
    exact ByteArray.utf8DecodeChar?_utf8EncodeChar_append

theorem decodeChar?_eq_none_iff {bytes : List UInt8} :
    decodeChar? bytes = none <->
      forall c rest, bytes ≠ String.utf8EncodeChar c ++ rest := by
  rw [Option.eq_none_iff_forall_ne_some]
  constructor
  · intro h c rest heq
    exact h c (decodeChar?_eq_some_iff.mpr ⟨rest, heq⟩)
  · intro h c hsome
    rcases decodeChar?_eq_some_iff.mp hsome with ⟨rest, heq⟩
    exact h c rest heq

/-- No encoding of a character begins with that of another one. -/
theorem utf8EncodeChar_append_inj {c d : Char} {rest rest' : List UInt8}
    (h : String.utf8EncodeChar c ++ rest = String.utf8EncodeChar d ++ rest') : c = d := by
  have hc : decodeChar? (String.utf8EncodeChar c ++ rest) = some c :=
    decodeChar?_eq_some_iff.mpr ⟨rest, rfl⟩
  have hd : decodeChar? (String.utf8EncodeChar c ++ rest) = some d :=
    decodeChar?_eq_some_iff.mpr ⟨rest', h⟩
  exact Option.some.inj (hc.symm.trans hd)

/-!
# Decoding
-/

/-- Decoding behind the bytes of a character, of which `skip` are left. -/
def decodeFrom : Nat -> List UInt8 -> List Char
  | _, [] => []
  | 0, b :: rest =>
      match decodeChar? (b :: rest) with
      | none => decodeFrom 0 rest
      | some c => c :: decodeFrom (c.utf8Size - 1) rest
  | skip + 1, _ :: rest => decodeFrom skip rest

/--
The characters of the bytes.  A byte that begins none is skipped; the others of a broken
character are skipped like it, as they begin none either.
-/
def decodeIgnore (bytes : List UInt8) : List Char :=
  decodeFrom 0 bytes

theorem decodeFrom_eq_drop (skip : Nat) (bytes : List UInt8) :
    decodeFrom skip bytes = decodeIgnore (bytes.drop skip) := by
  induction skip generalizing bytes with
  | zero =>
      rfl
  | succ skip ih =>
      cases bytes with
      | nil =>
          rfl
      | cons b rest =>
          exact ih rest

theorem decodeIgnore_of_none {b : UInt8} {rest : List UInt8}
    (h : decodeChar? (b :: rest) = none) :
    decodeIgnore (b :: rest) = decodeIgnore rest := by
  rw [decodeIgnore, decodeFrom, h, decodeIgnore]

theorem decodeIgnore_utf8EncodeChar_append (c : Char) (rest : List UInt8) :
    decodeIgnore (String.utf8EncodeChar c ++ rest) = c :: decodeIgnore rest := by
  have hsome : decodeChar? (String.utf8EncodeChar c ++ rest) = some c :=
    decodeChar?_eq_some_iff.mpr ⟨rest, rfl⟩
  have hlength := String.length_utf8EncodeChar c
  cases hbytes : String.utf8EncodeChar c with
  | nil =>
      rw [hbytes] at hlength
      exact absurd hlength.symm c.utf8Size_pos.ne'
  | cons b tail =>
      rw [hbytes] at hsome hlength
      rw [List.cons_append] at hsome ⊢
      have htail : c.utf8Size - 1 = tail.length := by
        rw [<- hlength, List.length_cons, Nat.add_sub_cancel]
      rw [decodeIgnore, decodeFrom, hsome]
      change c :: decodeFrom (c.utf8Size - 1) (tail ++ rest) = c :: decodeIgnore rest
      rw [decodeFrom_eq_drop, htail, List.drop_left]

theorem decodeIgnore_utf8_append (text : List Char) (rest : List UInt8) :
    decodeIgnore (utf8 text ++ rest) = text ++ decodeIgnore rest := by
  induction text with
  | nil =>
      rfl
  | cons c text ih =>
      rw [utf8_cons, List.append_assoc, decodeIgnore_utf8EncodeChar_append, ih,
        List.cons_append]

/-!
# Bytes that begin a character
-/

def AtBoundary (bytes : List UInt8) : Prop :=
  forall b, b ∈ bytes.head? -> b.IsUTF8FirstByte

theorem not_isUTF8FirstByte_of_mem_tail {c : Char} {b : UInt8}
    (h : b ∈ (String.utf8EncodeChar c).tail) : ¬ b.IsUTF8FirstByte := by
  rcases List.getElem_of_mem h with ⟨i, hi, hget⟩
  rw [<- hget, List.getElem_tail, UInt8.isUTF8FirstByte_getElem_utf8EncodeChar]
  exact Nat.succ_ne_zero i

theorem decodeIgnore_of_continuation {bytes : List UInt8}
    (h : forall b, b ∈ bytes -> ¬ b.IsUTF8FirstByte) : decodeIgnore bytes = [] := by
  induction bytes with
  | nil =>
      rfl
  | cons b rest ih =>
      have hnone : decodeChar? (b :: rest) = none := by
        rw [decodeChar?_eq_none_iff]
        intro c tail htail
        have hpos : 0 < (String.utf8EncodeChar c).length := by
          rw [String.length_utf8EncodeChar]
          exact c.utf8Size_pos
        have hfirst : (String.utf8EncodeChar c)[0].IsUTF8FirstByte :=
          UInt8.isUTF8FirstByte_getElem_utf8EncodeChar.mpr rfl
        apply h _ _ hfirst
        rw [htail]
        exact List.mem_append_left _ (List.getElem_mem hpos)
      rw [decodeIgnore_of_none hnone]
      exact ih fun b hb => h b (List.mem_cons_of_mem _ hb)

/-- A broken character is skipped as a whole. -/
theorem decodeIgnore_take_utf8EncodeChar {c : Char} {n : Nat} (h : n < c.utf8Size) :
    decodeIgnore ((String.utf8EncodeChar c).take n) = [] := by
  have hlength := String.length_utf8EncodeChar c
  cases hbytes : (String.utf8EncodeChar c).take n with
  | nil =>
      rfl
  | cons b rest =>
      have hnone : decodeChar? (b :: rest) = none := by
        rw [decodeChar?_eq_none_iff]
        intro d tail htail
        have hwhole : String.utf8EncodeChar c ++ [] =
            String.utf8EncodeChar d ++ (tail ++ (String.utf8EncodeChar c).drop n) := by
          rw [List.append_nil, <- List.append_assoc, <- htail, <- hbytes,
            List.take_append_drop]
        have hlen := congrArg List.length (hbytes.trans htail)
        rw [<- utf8EncodeChar_append_inj hwhole, List.length_take, List.length_append,
          hlength] at hlen
        omega
      rw [decodeIgnore_of_none hnone]
      apply decodeIgnore_of_continuation
      intro b' hb'
      apply not_isUTF8FirstByte_of_mem_tail (c := c)
      rw [<- List.take_append_drop n (String.utf8EncodeChar c), hbytes]
      exact List.mem_append_left _ hb'

theorem AtBoundary.ends_before {bytes rest more : List UInt8} {c : Char}
    (h : AtBoundary rest) (hbytes : bytes ≠ [])
    (heq : bytes ++ rest = String.utf8EncodeChar c ++ more) :
    exists behind, bytes = String.utf8EncodeChar c ++ behind ∧ more = behind ++ rest := by
  rcases List.append_eq_append_iff.mp heq with hleft | hright
  · rcases hleft with ⟨inside, hchar, hrest⟩
    cases inside with
    | nil =>
        rw [List.append_nil] at hchar
        exact ⟨[], by rw [hchar, List.append_nil], hrest.symm⟩
    | cons b tail =>
        have hfirst : b.IsUTF8FirstByte := h b (by rw [hrest]; rfl)
        have hmem : b ∈ (String.utf8EncodeChar c).tail := by
          rw [hchar, List.tail_append_of_ne_nil hbytes]
          exact List.mem_append_right _ List.mem_cons_self
        exact absurd hfirst (not_isUTF8FirstByte_of_mem_tail hmem)
  · exact hright

/-- Bytes that begin a character are read the same behind anything. -/
theorem decodeIgnore_append {rest : List UInt8} (h : AtBoundary rest) (bytes : List UInt8) :
    decodeIgnore (bytes ++ rest) = decodeIgnore bytes ++ decodeIgnore rest := by
  induction hlength : bytes.length using Nat.strong_induction_on generalizing bytes with
  | _ n ih =>
      cases bytes with
      | nil =>
          rfl
      | cons b tail =>
          cases hsome : decodeChar? (b :: tail ++ rest) with
          | none =>
              have hnone : decodeChar? (b :: tail) = none := by
                rw [decodeChar?_eq_none_iff] at hsome ⊢
                intro c more heq
                apply hsome c (more ++ rest)
                rw [heq, List.append_assoc]
              have htail : tail.length < n := by
                rw [<- hlength, List.length_cons]
                exact Nat.lt_succ_self _
              rw [List.cons_append] at hsome ⊢
              rw [decodeIgnore_of_none hsome, decodeIgnore_of_none hnone]
              exact ih _ htail tail rfl
          | some c =>
              rcases decodeChar?_eq_some_iff.mp hsome with ⟨more, hmore⟩
              rcases h.ends_before (List.cons_ne_nil b tail) hmore with ⟨behind, hbytes, hbehind⟩
              have hshorter : behind.length < n := by
                rw [<- hlength, hbytes, List.length_append, String.length_utf8EncodeChar]
                exact Nat.lt_add_of_pos_left c.utf8Size_pos
              rw [hmore, hbehind, hbytes, decodeIgnore_utf8EncodeChar_append,
                decodeIgnore_utf8EncodeChar_append, ih _ hshorter behind rfl, List.cons_append]

/-!
# Texts in memory
-/

theorem eq_nul_of_zero_mem {c : Char} (h : 0 ∈ String.utf8EncodeChar c) : c = '\x00' := by
  cases hbytes : String.utf8EncodeChar c with
  | nil =>
      rw [hbytes] at h
      cases h
  | cons b tail =>
      have htail : 0 ∉ tail := by
        intro hmem
        have hmem' : 0 ∈ (String.utf8EncodeChar c).tail := by
          rw [hbytes]
          exact hmem
        exact not_isUTF8FirstByte_of_mem_tail hmem' (by decide)
      rw [hbytes] at h
      have hb : 0 = b := (List.mem_cons.mp h).resolve_right htail
      have hnul : String.utf8EncodeChar c ++ [] = String.utf8EncodeChar '\x00' ++ tail := by
        rw [List.append_nil, hbytes, <- hb]
        rfl
      exact utf8EncodeChar_append_inj hnul

/-- Only the character zero is encoded with a zero byte. -/
theorem zero_not_mem_utf8 {text : List Char} (h : '\x00' ∉ text) : 0 ∉ utf8 text := by
  intro hzero
  rcases List.mem_flatMap.mp hzero with ⟨c, hmem, hc⟩
  rw [eq_nul_of_zero_mem hc] at hmem
  exact h hmem

theorem subset_of_mem_decodeFrom {c : Char} {skip : Nat} {bytes : List UInt8}
    (h : c ∈ decodeFrom skip bytes) : String.utf8EncodeChar c ⊆ bytes := by
  induction bytes generalizing skip with
  | nil =>
      cases skip with
      | zero => cases h
      | succ skip => cases h
  | cons b rest ih =>
      cases skip with
      | succ skip =>
          exact List.subset_cons_of_subset b (ih h)
      | zero =>
          rw [decodeFrom] at h
          cases hsome : decodeChar? (b :: rest) with
          | none =>
              rw [hsome] at h
              exact List.subset_cons_of_subset b (ih h)
          | some d =>
              rw [hsome] at h
              rcases List.mem_cons.mp h with hhead | htail
              · rcases decodeChar?_eq_some_iff.mp hsome with ⟨more, hmore⟩
                rw [hhead, hmore]
                exact List.subset_append_left _ _
              · exact List.subset_cons_of_subset b (ih htail)

theorem nul_not_mem_decodeIgnore {bytes : List UInt8} (h : 0 ∉ bytes) :
    '\x00' ∉ decodeIgnore bytes := by
  intro hmem
  exact h (subset_of_mem_decodeFrom hmem List.mem_cons_self)

theorem decodeIgnore_replicate_zero (k : Nat) :
    decodeIgnore (List.replicate k 0) = List.replicate k '\x00' := by
  induction k with
  | zero =>
      rfl
  | succ k ih =>
      rw [List.replicate_succ, List.replicate_succ, <- ih]
      exact decodeIgnore_utf8EncodeChar_append '\x00' (List.replicate k 0)

/-- What is left of the characters when those of zero bytes are not seen. -/
def visible (text : List Char) : List Char :=
  text.filter fun c => c != '\x00'

theorem visible_of_nul_free {text : List Char} (h : '\x00' ∉ text) : visible text = text := by
  refine List.filter_eq_self.mpr ?_
  intro c hc
  exact bne_iff_ne.mpr (ne_of_mem_of_not_mem hc h)

theorem visible_decodeIgnore_padded {bytes : List UInt8} (h : 0 ∉ bytes) (k : Nat) :
    visible (decodeIgnore (bytes ++ List.replicate k 0)) = decodeIgnore bytes := by
  have hboundary : AtBoundary (List.replicate k (0 : UInt8)) := by
    intro b hb
    have hzero : b = 0 := List.eq_of_mem_replicate (List.mem_of_mem_head? hb)
    rw [hzero]
    decide
  have hpadding : visible (List.replicate k '\x00') = [] := by
    refine List.filter_eq_nil_iff.mpr ?_
    intro c hc
    rw [List.eq_of_mem_replicate hc]
    decide
  rw [decodeIgnore_append hboundary, decodeIgnore_replicate_zero, visible, List.filter_append]
  change visible (decodeIgnore bytes) ++ visible (List.replicate k '\x00') = decodeIgnore bytes
  rw [hpadding, visible_of_nul_free (nul_not_mem_decodeIgnore h), List.append_nil]

/-- The characters at the front of a text whose encodings fit into `n` bytes. -/
def fitting : Nat -> List Char -> List Char
  | _, [] => []
  | n, c :: text =>
      if c.utf8Size ≤ n then c :: fitting (n - c.utf8Size) text else []

/-- A cut loses the characters that do not fit. -/
theorem decodeIgnore_take_utf8 (n : Nat) (text : List Char) :
    decodeIgnore ((utf8 text).take n) = fitting n text := by
  induction text generalizing n with
  | nil =>
      rw [utf8, List.flatMap_nil, List.take_nil]
      rfl
  | cons c text ih =>
      have hlength := String.length_utf8EncodeChar c
      rw [utf8_cons, fitting]
      split
      · next hfits =>
          have htake : (String.utf8EncodeChar c ++ utf8 text).take n =
              String.utf8EncodeChar c ++ (utf8 text).take (n - c.utf8Size) := by
            rw [List.take_append, hlength, List.take_of_length_le (by rw [hlength]; exact hfits)]
          rw [htake, decodeIgnore_utf8EncodeChar_append, ih]
      · next hover =>
          have hlt : n < c.utf8Size := not_le.mp hover
          rw [List.take_append_of_le_length (by rw [hlength]; exact hlt.le)]
          exact decodeIgnore_take_utf8EncodeChar hlt

end Foundation
end CarCleaner
