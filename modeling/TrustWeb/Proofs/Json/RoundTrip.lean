import TrustWeb.Proofs.Json.Numerals

/-! # Reading what was printed

Reading the line of a value gives the value back, if its numbers are not too long to be read and no
object names a field twice. Every value that was read is like that. The line of such a value is a
single one: no control character stands in it. -/

namespace TrustWeb.Json

variable {cs ds fr ex rest minus : List Char}

/-! ## Text -/

theorem readEscapedUnit_hex : ∀ n < 0x20, ∀ more,
    readEscapedUnit (Text.hex 4 n ++ more) = some (Char.ofNat n, more) := by
  intro n hn more
  interval_cases n <;> rfl

/-- A printed character is read as itself. -/
theorem readString_printedChar (fuel : Nat) (acc : List Char) (c : Char) (more : List Char) :
    readString (fuel + 1) acc (printedChar c ++ more) = readString fuel (c :: acc) more := by
  unfold printedChar
  split
  · next h => obtain rfl := beq_iff_eq.mp h; rfl
  split
  · next h => obtain rfl := beq_iff_eq.mp h; rfl
  split
  · next h => obtain rfl := beq_iff_eq.mp h; rfl
  split
  · next h => obtain rfl := beq_iff_eq.mp h; rfl
  split
  · next h => obtain rfl := beq_iff_eq.mp h; rfl
  split
  · next h => obtain rfl := beq_iff_eq.mp h; rfl
  split
  · next h => obtain rfl := beq_iff_eq.mp h; rfl
  split
  · next h =>
      have hread := readEscapedUnit_hex c.toNat h more
      rw [Char.ofNat_toNat] at hread
      simp [readString, hread]
  · rw [List.singleton_append]
    simp_all [readString]

theorem readString_printed {fuel : Nat} {acc s : List Char} (hfuel : s.length < fuel)
    (more : List Char) :
    readString fuel acc (s.flatMap printedChar ++ '\x22' :: more) =
      some (String.ofList (acc.reverse ++ s), more) := by
  induction s generalizing fuel acc with
  | nil =>
      obtain ⟨fuel, rfl⟩ := Nat.exists_eq_add_of_lt hfuel
      simp [readString]
  | cons c s ih =>
      obtain ⟨fuel, rfl⟩ : ∃ n, fuel = n + 1 := ⟨fuel - 1, by simp at hfuel; omega⟩
      rw [List.flatMap_cons, List.append_assoc, readString_printedChar, ih (by simpa using hfuel)]
      simp

theorem length_le_printed (s : List Char) : s.length ≤ (s.flatMap printedChar).length := by
  induction s with
  | nil => simp
  | cons c s ih =>
      have hc : 1 ≤ (printedChar c).length := by
        unfold printedChar
        repeat' split
        all_goals simp
      rw [List.flatMap_cons, List.length_append, List.length_cons]
      omega

/-! ## Values -/

/-- A value that can be read back: its numbers are not too long, its literals are those of numbers,
and none of its objects names a field twice. -/
inductive Printable : Json → Prop where
  | null : Printable .null
  | bool (b : Bool) : Printable (.bool b)
  | numeric {v : Json} (h : Numeric v) : Printable v
  | text (s : String) : Printable (.text s)
  | array {items : List Json} (h : ∀ v ∈ items, Printable v) : Printable (.array items)
  | object {fields : List (String × Json)} (hkeys : (Table.keys fields).Nodup)
      (h : ∀ entry ∈ fields, Printable entry.2) : Printable (.object fields)

@[simp] theorem printable_text (s : String) : Printable (.text s) := .text s

@[simp] theorem printable_bool (b : Bool) : Printable (.bool b) := .bool b

@[simp] theorem printable_number_iff {n : Int} : Printable (.number n) ↔ Short n := by
  refine ⟨fun h => ?_, fun h => .numeric (.number h)⟩
  cases h with
  | numeric h =>
      cases h with
      | number hn => exact hn

@[simp] theorem printable_array_iff {items : List Json} :
    Printable (.array items) ↔ ∀ v ∈ items, Printable v := by
  refine ⟨fun h => ?_, .array⟩
  cases h with
  | numeric h => cases h
  | array h => exact h

@[simp] theorem printable_object_iff {fields : List (String × Json)} :
    Printable (.object fields) ↔
      (Table.keys fields).Nodup ∧ ∀ entry ∈ fields, Printable entry.2 := by
  refine ⟨fun h => ?_, fun h => .object h.1 h.2⟩
  cases h with
  | numeric h => cases h
  | object hkeys h => exact ⟨hkeys, h⟩

theorem toList_printedText (s : String) :
    (printedText s).toList = '\x22' :: (s.toList.flatMap printedChar ++ ['\x22']) := by
  simp [printedText]

theorem readString_printedText (s : String) (more : List Char) :
    readString ((s.toList.flatMap printedChar ++ '\x22' :: more).length + 1) []
      (s.toList.flatMap printedChar ++ '\x22' :: more) = some (s, more) := by
  have hlength := length_le_printed s.toList
  rw [readString_printed (by rw [List.length_append]; omega)]
  simp

theorem skipSpace_blank (cs : List Char) : skipSpace (' ' :: cs) = skipSpace cs := rfl

theorem skipSpace_cons {c : Char} (hc : isSpace c = false) (cs : List Char) :
    skipSpace (c :: cs) = c :: cs := by
  simp [skipSpace, hc]

/-- Text that a value can start with: its first character is no blank and ends nothing. -/
def Starts (cs : List Char) : Prop := ∃ c ∈ cs.head?, isSpace c = false ∧ c ≠ ']' ∧ c ≠ '\x7d'

theorem Starts.append (h : Starts cs) (more : List Char) : Starts (cs ++ more) := by
  obtain ⟨c, hc, hstart⟩ := h
  exact ⟨c, List.mem_head?_append_of_mem_head? hc, hstart⟩

theorem Starts.skipSpace (h : Starts cs) : Json.skipSpace cs = cs := by
  obtain ⟨c, hc, hspace, -⟩ := h
  cases cs with
  | nil => cases hc
  | cons c' cs =>
      obtain rfl : c' = c := by simpa using hc
      exact skipSpace_cons hspace cs

theorem starts_digit {d : Char} (hd : d.isDigit = true) : Starts (d :: cs) := by
  have hne : ∀ c : Char, c.isDigit = false → d ≠ c := fun _ => ne_of_isDigit hd
  refine ⟨d, rfl, ?_, hne _ rfl, hne _ rfl⟩
  simp [isSpace, hne ' ' rfl, hne '\t' rfl, hne '\n' rfl, hne '\r' rfl]

/-- A printed number is a word, or starts with a digit and is read back as a number. -/
theorem Numeric.line_cases {v : Json} (hv : Numeric v) :
    ((line v).toList, v) ∈ words ∨
      (∃ minus d ds, minus ∈ [[], ['-']] ∧ d.isDigit = true ∧ (line v).toList = minus ++ d :: ds) ∧
        ∀ rest, Ends rest → readNumber ((line v).toList ++ rest) = .ok (v, rest) := by
  cases hv with
  | @number n hn =>
      obtain ⟨d, ds, hds, hd⟩ := (whole_toDigits n.natAbs).exists_cons
      refine .inr ⟨⟨if n < 0 then ['-'] else [], d, ds, by split <;> simp, hd, ?_⟩,
        fun rest => readNumber_number hn⟩
      rw [line, toList_toString, hds]
  | decimal hl =>
      cases hl with
      | word hword => exact .inl hword
      | @number minus ds fr ex hminus hds hfr hex hne =>
          refine .inr ⟨?_, fun rest hrest => ?_⟩
          · obtain ⟨d, ds, rfl, hd⟩ := hds.exists_cons
            exact ⟨minus, d, ds ++ fr ++ ex, hminus, hd, by simp [line]⟩
          · have hread := readNumber_append hminus hds hfr hex hrest
            rw [if_pos hne] at hread
            simpa [line] using hread

theorem Printable.starts {v : Json} (hv : Printable v) : Starts (line v).toList := by
  cases hv with
  | null => exact ⟨'n', by simp [line], by decide⟩
  | bool b => cases b <;> exact ⟨_, rfl, by decide⟩
  | numeric h =>
      obtain hword | ⟨⟨minus, d, ds, hminus, hd, hline⟩, -⟩ := h.line_cases
      · revert hword
        generalize (line v).toList = cs
        simp only [words, List.mem_cons, Prod.mk.injEq, List.not_mem_nil, or_false]
        rintro (⟨rfl, -⟩ | ⟨rfl, -⟩ | ⟨rfl, -⟩ | ⟨rfl, -⟩ | ⟨rfl, -⟩ | ⟨rfl, -⟩) <;>
          exact ⟨_, rfl, by decide⟩
      · rw [hline]
        rcases List.mem_pair.mp hminus with rfl | rfl
        · exact starts_digit hd
        · exact ⟨'-', rfl, by decide⟩
  | text s => exact ⟨'\x22', by simp [line, toList_printedText], by decide⟩
  | array _ => exact ⟨'[', by simp [line], by decide⟩
  | object _ _ => exact ⟨'\x7b', by simp [line], by decide⟩

/-- The text of a value is read back, whatever ends it. -/
def Reads (v : Json) : Prop :=
  ∀ fuel rest, (line v).toList.length ≤ fuel → Ends rest →
    readValue fuel ((line v).toList ++ rest) = .ok (v, rest)

/-- Text that does not start as text, an array or an object does is a word or a number. -/
theorem readValue_plain {c : Char} (hc : c ≠ '\x22' ∧ c ≠ '[' ∧ c ≠ '\x7b') (fuel : Nat) :
    readValue (fuel + 1) (c :: cs) =
      match readWord (c :: cs) with
      | some found => .ok found
      | none => readNumber (c :: cs) := by
  unfold readValue
  split
  · next heq => exact (hc.1 (List.cons.inj heq).1).elim
  · next heq => exact (hc.2.1 (List.cons.inj heq).1).elim
  · next heq => exact (hc.2.2 (List.cons.inj heq).1).elim
  · rfl

theorem readValue_word {word : List Char} {v : Json} (h : (word, v) ∈ words) (fuel : Nat)
    (rest : List Char) : readValue (fuel + 1) (word ++ rest) = .ok (v, rest) := by
  simp only [words, List.mem_cons, Prod.mk.injEq, List.not_mem_nil, or_false] at h
  rcases h with ⟨rfl, rfl⟩ | ⟨rfl, rfl⟩ | ⟨rfl, rfl⟩ | ⟨rfl, rfl⟩ | ⟨rfl, rfl⟩ | ⟨rfl, rfl⟩ <;>
    exact readValue_plain (by decide) fuel

theorem readValue_digit {d : Char} (hd : d.isDigit = true) (hminus : minus ∈ [[], ['-']])
    (fuel : Nat) : readValue (fuel + 1) (minus ++ d :: cs) = readNumber (minus ++ d :: cs) := by
  rcases List.mem_pair.mp hminus with rfl | rfl
  · have hc : d ≠ '\x22' ∧ d ≠ '[' ∧ d ≠ '\x7b' :=
      ⟨ne_of_isDigit hd rfl, ne_of_isDigit hd rfl, ne_of_isDigit hd rfl⟩
    rw [List.nil_append, readValue_plain hc, (readWord_digit hd).1]
  · rw [List.singleton_append, readValue_plain (by decide), (readWord_digit hd).2]

theorem Starts.fuel_pos {fuel : Nat} (h : Starts cs) (hfuel : cs.length ≤ fuel) :
    ∃ n, fuel = n + 1 := by
  obtain ⟨c, hc, -⟩ := h
  cases cs with
  | nil => cases hc
  | cons c' cs => exact ⟨fuel - 1, by rw [List.length_cons] at hfuel; omega⟩

theorem reads_word {v : Json} (hv : Printable v) (hword : ((line v).toList, v) ∈ words) :
    Reads v := by
  intro fuel rest hfuel _
  obtain ⟨fuel, rfl⟩ := hv.starts.fuel_pos hfuel
  exact readValue_word hword fuel rest

theorem Numeric.reads {v : Json} (hv : Numeric v) : Reads v := by
  obtain hword | ⟨⟨minus, d, ds, hminus, hd, hline⟩, hread⟩ := hv.line_cases
  · exact reads_word (.numeric hv) hword
  · intro fuel rest hfuel hrest
    obtain ⟨fuel, rfl⟩ := (Printable.numeric hv).starts.fuel_pos hfuel
    rw [← hread rest hrest, hline, List.append_assoc, List.cons_append, readValue_digit hd hminus]

theorem reads_text (s : String) : Reads (.text s) := by
  intro fuel rest hfuel _
  obtain ⟨fuel, rfl⟩ := (Printable.text s).starts.fuel_pos hfuel
  simp only [line, toList_printedText, List.cons_append, List.append_assoc, List.nil_append,
    readValue, readString_printedText]

theorem ends_cons {c : Char} (hc : c = ',' ∨ c = ']' ∨ c = '\x7d') : Ends (c :: rest) := by
  intro c' hc'
  obtain rfl : c = c' := by simpa using hc'
  exact hc

theorem readValue_array (h : Starts cs) (fuel : Nat) :
    readValue (fuel + 1) ('[' :: cs) = readItems fuel [] cs := by
  have hskip := h.skipSpace
  obtain ⟨c, hc, -, hne, -⟩ := h
  simp only [readValue, hskip]
  split
  · cases hc
    exact (hne rfl).elim
  · rfl

theorem readValue_object (h : Starts cs) (fuel : Nat) :
    readValue (fuel + 1) ('\x7b' :: cs) = readFields fuel [] cs := by
  have hskip := h.skipSpace
  obtain ⟨c, hc, -, -, hne⟩ := h
  simp only [readValue, hskip]
  split
  · cases hc
    exact (hne rfl).elim
  · rfl

section Items

variable {item : Json} {items acc : List Json} {fuel : Nat}

theorem readItems_last (hitem : Reads item) (hfuel : (line item).toList.length ≤ fuel)
    (acc : List Json) (rest : List Char) :
    readItems (fuel + 1) acc ((line item).toList ++ ']' :: rest) =
      .ok (.array (acc.reverse ++ [item]), rest) := by
  have hclose : skipSpace (']' :: rest) = ']' :: rest := skipSpace_cons rfl rest
  simp [readItems, hitem fuel (']' :: rest) hfuel (ends_cons (by simp)), hclose]

theorem readItems_next (hitem : Reads item) (hfuel : (line item).toList.length ≤ fuel)
    (hcs : Starts cs) (acc : List Json) :
    readItems (fuel + 1) acc ((line item).toList ++ (',' :: ' ' :: cs)) =
      readItems fuel (item :: acc) cs := by
  have hcomma : skipSpace (',' :: ' ' :: cs) = ',' :: ' ' :: cs := skipSpace_cons rfl _
  simp only [readItems, hitem fuel (',' :: ' ' :: cs) hfuel (ends_cons (by simp)), hcomma,
    skipSpace_blank, hcs.skipSpace]

theorem toList_lineItems_cons (item next : Json) (items : List Json) :
    (lineItems (item :: next :: items)).toList =
      (line item).toList ++ (',' :: ' ' :: (lineItems (next :: items)).toList) := by
  simp [lineItems]

theorem starts_lineItems (h : Printable item) (items : List Json) :
    Starts (lineItems (item :: items)).toList := by
  cases items with
  | nil => exact h.starts
  | cons next items =>
      rw [toList_lineItems_cons]
      exact h.starts.append _

theorem readItems_line (h : ∀ v ∈ item :: items, Printable v ∧ Reads v)
    (hfuel : (lineItems (item :: items)).toList.length < fuel) (acc : List Json)
    (rest : List Char) :
    readItems fuel acc ((lineItems (item :: items)).toList ++ ']' :: rest) =
      .ok (.array (acc.reverse ++ item :: items), rest) := by
  induction items generalizing item fuel acc with
  | nil =>
      obtain ⟨fuel, rfl⟩ : ∃ n, fuel = n + 1 := ⟨fuel - 1, by omega⟩
      exact readItems_last (h item List.mem_cons_self).2 (Nat.lt_succ_iff.mp hfuel) acc rest
  | cons next items ih =>
      obtain ⟨fuel, rfl⟩ : ∃ n, fuel = n + 1 := ⟨fuel - 1, by omega⟩
      obtain ⟨hitem, hitems⟩ := List.forall_mem_cons.mp h
      rw [toList_lineItems_cons, List.length_append, List.length_cons, List.length_cons] at hfuel
      have hnext := starts_lineItems (hitems next List.mem_cons_self).1 items
      rw [toList_lineItems_cons, List.append_assoc, List.cons_append, List.cons_append,
        readItems_next hitem.2 (by omega) (hnext.append _), ih hitems (by omega)]
      simp

end Items

section Fields

variable {entry : String × Json} {fields acc : List (String × Json)} {fuel : Nat}

/-- A field on one line. -/
def lineField (entry : String × Json) : List Char :=
  (printedText entry.1).toList ++ (':' :: ' ' :: (line entry.2).toList)

theorem toList_lineFields_cons (entry next : String × Json) (fields : List (String × Json)) :
    (lineFields (entry :: next :: fields)).toList =
      lineField entry ++ (',' :: ' ' :: (lineFields (next :: fields)).toList) := by
  simp [lineFields, lineField]

theorem toList_lineFields_singleton (entry : String × Json) :
    (lineFields [entry]).toList = lineField entry := by
  simp [lineFields, lineField]

theorem starts_lineFields (entry : String × Json) (fields : List (String × Json)) :
    Starts (lineFields (entry :: fields)).toList := by
  have hentry : Starts (lineField entry) :=
    ⟨'\x22', by simp [lineField, toList_printedText], by decide⟩
  cases fields with
  | nil => rwa [toList_lineFields_singleton]
  | cons next fields =>
      rw [toList_lineFields_cons]
      exact hentry.append _

/-- A field is its name, which is read as text, and its value, which is read after a colon and a
blank. -/
theorem readFields_lineField (hentry : Printable entry.2 ∧ Reads entry.2)
    (hfuel : (lineField entry).length ≤ fuel) (hcs : Ends cs) :
    ∃ name value, lineField entry ++ cs = '\x22' :: name ∧
      readString (name.length + 1) [] name = some (entry.1, ':' :: ' ' :: value) ∧
      skipSpace value = value ∧ readValue fuel value = .ok (entry.2, cs) := by
  refine ⟨_, (line entry.2).toList ++ cs, ?_, readString_printedText entry.1 _,
    (hentry.1.starts.append cs).skipSpace, hentry.2 fuel cs ?_ hcs⟩
  · simp [lineField, toList_printedText]
  · simp only [lineField, List.length_append, List.length_cons] at hfuel
    omega

theorem readFields_last (hentry : Printable entry.2 ∧ Reads entry.2)
    (hfuel : (lineField entry).length ≤ fuel) (acc : List (String × Json)) (rest : List Char) :
    readFields (fuel + 1) acc (lineField entry ++ '\x7d' :: rest) =
      .ok (.object (Table.put acc entry.1 entry.2), rest) := by
  have hends : Ends ('\x7d' :: rest) := ends_cons (.inr (.inr rfl))
  obtain ⟨name, value, htext, hname, hblank, hvalue⟩ := readFields_lineField hentry hfuel hends
  have hcolon : skipSpace (':' :: ' ' :: value) = ':' :: ' ' :: value := skipSpace_cons rfl _
  have hclose : skipSpace ('\x7d' :: rest) = '\x7d' :: rest := skipSpace_cons rfl rest
  simp only [htext, readFields, hname, hcolon, skipSpace_blank, hblank, hvalue, hclose]

theorem readFields_next (hentry : Printable entry.2 ∧ Reads entry.2)
    (hfuel : (lineField entry).length ≤ fuel) (hcs : Starts cs) (acc : List (String × Json)) :
    readFields (fuel + 1) acc (lineField entry ++ (',' :: ' ' :: cs)) =
      readFields fuel (Table.put acc entry.1 entry.2) cs := by
  have hends : Ends (',' :: ' ' :: cs) := ends_cons (.inl rfl)
  obtain ⟨name, value, htext, hname, hblank, hvalue⟩ := readFields_lineField hentry hfuel hends
  have hcolon : skipSpace (':' :: ' ' :: value) = ':' :: ' ' :: value := skipSpace_cons rfl _
  have hcomma : skipSpace (',' :: ' ' :: cs) = ',' :: ' ' :: cs := skipSpace_cons rfl _
  simp only [htext, readFields, hname, hcolon, skipSpace_blank, hblank, hvalue, hcomma,
    hcs.skipSpace]

theorem put_new_key (hkeys : (Table.keys (acc ++ entry :: fields)).Nodup) :
    Table.put acc entry.1 entry.2 = acc ++ [entry] := by
  apply Table.put_of_find?_eq_none
  rw [Option.eq_none_iff_forall_not_mem]
  intro v hv
  rw [Table.keys, List.map_append, List.map_cons, List.nodup_append] at hkeys
  exact hkeys.2.2 _ (Table.mem_keys_iff.mpr ⟨v, hv⟩) _ List.mem_cons_self rfl

theorem readFields_line (h : ∀ e ∈ entry :: fields, Printable e.2 ∧ Reads e.2)
    (hkeys : (Table.keys (acc ++ entry :: fields)).Nodup)
    (hfuel : (lineFields (entry :: fields)).toList.length < fuel) (rest : List Char) :
    readFields fuel acc ((lineFields (entry :: fields)).toList ++ '\x7d' :: rest) =
      .ok (.object (acc ++ entry :: fields), rest) := by
  have hput := put_new_key hkeys
  induction fields generalizing entry fuel acc with
  | nil =>
      obtain ⟨fuel, rfl⟩ : ∃ n, fuel = n + 1 := ⟨fuel - 1, by omega⟩
      rw [toList_lineFields_singleton] at hfuel ⊢
      rw [readFields_last (h entry List.mem_cons_self) (Nat.lt_succ_iff.mp hfuel), hput]
  | cons next fields ih =>
      obtain ⟨fuel, rfl⟩ : ∃ n, fuel = n + 1 := ⟨fuel - 1, by omega⟩
      obtain ⟨hentry, hfields⟩ := List.forall_mem_cons.mp h
      rw [toList_lineFields_cons, List.length_append, List.length_cons, List.length_cons] at hfuel
      have hstarts := (starts_lineFields next fields).append ('\x7d' :: rest)
      have hkeys' : (Table.keys (acc ++ [entry] ++ next :: fields)).Nodup := by
        simpa using hkeys
      rw [toList_lineFields_cons, List.append_assoc, List.cons_append, List.cons_append,
        readFields_next hentry (by omega) hstarts, hput,
        ih hfields hkeys' (by omega) (put_new_key hkeys')]
      simp

end Fields

/-- Every printable value is read back. -/
theorem Printable.reads {v : Json} (hv : Printable v) : Reads v := by
  induction hv with
  | null => exact reads_word .null (by simp [line, words])
  | bool b => exact reads_word (.bool b) (by cases b <;> simp [line, words])
  | numeric h => exact h.reads
  | text s => exact reads_text s
  | @array items h ih =>
      intro fuel rest hfuel _
      obtain ⟨fuel, rfl⟩ := (Printable.array h).starts.fuel_pos hfuel
      cases items with
      | nil => simp [line, lineItems, readValue, skipSpace, isSpace]
      | cons item items =>
          have hline : (line (.array (item :: items))).toList ++ rest =
              '[' :: ((lineItems (item :: items)).toList ++ ']' :: rest) := by simp [line]
          have hstarts := (starts_lineItems (h item List.mem_cons_self) items).append (']' :: rest)
          rw [hline, readValue_array hstarts,
            readItems_line (fun v hv => ⟨h v hv, ih v hv⟩) (by simp [line] at hfuel; omega)]
          rfl
  | @object fields hkeys h ih =>
      intro fuel rest hfuel _
      obtain ⟨fuel, rfl⟩ := (Printable.object hkeys h).starts.fuel_pos hfuel
      cases fields with
      | nil => simp [line, lineFields, readValue, skipSpace, isSpace]
      | cons entry fields =>
          have hline : (line (.object (entry :: fields))).toList ++ rest =
              '\x7b' :: ((lineFields (entry :: fields)).toList ++ '\x7d' :: rest) := by simp [line]
          have hstarts := (starts_lineFields entry fields).append ('\x7d' :: rest)
          rw [hline, readValue_object hstarts,
            readFields_line (fun e he => ⟨h e he, ih e he⟩) hkeys (by simp [line] at hfuel; omega)]
          rfl

/-- Reading the line of a value gives the value back. -/
theorem parse_line {v : Json} (hv : Printable v) : parse (line v) = .ok v := by
  have hread := hv.reads (2 * (line v).toList.length + 2) [] (by omega) (by simp [Ends])
  rw [List.append_nil] at hread
  simp only [parse, hv.starts.skipSpace, hread]
  rfl

theorem parse_of_line {v : Json} {s : String} (hv : Printable v) (h : line v = s) :
    parse s = .ok v := by
  rw [← h, parse_line hv]

/-- A number that is too long keeps the object that it is in from being read. -/
theorem parse_overlong (name : String) (hds : Whole ds) (hlength : Text.maxDigits < ds.length) :
    parse ("\x7b" ++ printedText name ++ ": " ++ String.ofList ds ++ "\x7d") =
      .error (.numeralLength ds.length) := by
  have hends : Ends ['\x7d'] := ends_cons (.inr (.inr rfl))
  have hnumber := readNumber_overlong hds hlength hends
  obtain ⟨d, digits, rfl, hd⟩ := hds.exists_cons
  -- the number ends the reading, whatever fuel is left; so do the field and the object around it
  have hminus : [] ∈ [[], ['-']] := by simp
  have hvalue (fuel : Nat) : readValue (fuel + 1) (d :: (digits ++ ['\x7d'])) =
      .error (.numeralLength (d :: digits).length) :=
    (readValue_digit hd hminus fuel).trans hnumber
  have hblank : skipSpace (' ' :: d :: (digits ++ ['\x7d'])) = d :: (digits ++ ['\x7d']) :=
    (starts_digit hd).skipSpace
  have hcolon : skipSpace (':' :: ' ' :: d :: (digits ++ ['\x7d'])) =
      ':' :: ' ' :: d :: (digits ++ ['\x7d']) := skipSpace_cons rfl _
  generalize hcs : (printedText name).toList ++ (':' :: ' ' :: d :: (digits ++ ['\x7d'])) = cs
  have hfield (fuel : Nat) : readFields (fuel + 2) [] cs =
      .error (.numeralLength (d :: digits).length) := by
    rw [← hcs]
    simp only [toList_printedText, List.cons_append, List.append_assoc, List.nil_append,
      readFields, readString_printedText, hcolon, hblank, hvalue]
  have hstarts : Starts cs := by
    rw [← hcs, toList_printedText]
    exact ⟨'\x22', rfl, by decide⟩
  have htext : ("\x7b" ++ printedText name ++ ": " ++ String.ofList (d :: digits) ++
      "\x7d").toList = '\x7b' :: cs := by simp [← hcs]
  have hskip : skipSpace ('\x7b' :: cs) = '\x7b' :: cs := skipSpace_cons rfl cs
  have hfuel : 2 * ('\x7b' :: cs).length + 2 = 2 * cs.length + 1 + 2 + 1 := by
    rw [List.length_cons]
    omega
  simp only [parse, htext, hskip, hfuel, readValue_object hstarts, hfield]

/-! ## Values that were read -/

/-- What is read with the given fuel is printable. -/
structure Yields (fuel : Nat) : Prop where
  value : ∀ {cs v rest}, readValue fuel cs = .ok (v, rest) → Printable v
  items : ∀ {acc cs v rest}, (∀ item ∈ acc, Printable item) →
    readItems fuel acc cs = .ok (v, rest) → Printable v
  fields : ∀ {acc cs v rest}, (Table.keys acc).Nodup → (∀ entry ∈ acc, Printable entry.2) →
    readFields fuel acc cs = .ok (v, rest) → Printable v

theorem printable_of_readWord {v : Json} (h : readWord cs = some (v, rest)) : Printable v := by
  obtain ⟨⟨word, value⟩, hword, hfound⟩ := List.exists_of_findSome?_eq_some h
  simp only at hfound
  split at hfound
  · cases hfound
    simp only [words, List.mem_cons, Prod.mk.injEq, List.not_mem_nil, or_false] at hword
    obtain ⟨-, rfl⟩ | ⟨-, rfl⟩ | ⟨-, rfl⟩ | ⟨-, rfl⟩ | ⟨-, rfl⟩ | ⟨-, rfl⟩ := hword
    · exact .null
    · exact .bool true
    · exact .bool false
    all_goals exact .numeric (.decimal (.word (by simp [words])))
  · cases hfound

theorem Yields.readValue {fuel : Nat} (h : Yields fuel) {v : Json}
    (hread : Json.readValue (fuel + 1) cs = .ok (v, rest)) : Printable v := by
  unfold Json.readValue at hread
  split at hread
  · split at hread
    · cases hread
      exact .text _
    · cases hread
  · split at hread
    · cases hread
      exact .array (by simp)
    · exact h.items (by simp) hread
  · split at hread
    · cases hread
      exact .object (by simp [Table.keys]) (by simp)
    · exact h.fields (by simp [Table.keys]) (by simp) hread
  · split at hread
    · next hword =>
        cases hread
        exact printable_of_readWord hword
    · exact .numeric (numeric_of_readNumber hread)

theorem Yields.readItems {fuel : Nat} (h : Yields fuel) {acc : List Json} {v : Json}
    (hacc : ∀ item ∈ acc, Printable item)
    (hread : Json.readItems (fuel + 1) acc cs = .ok (v, rest)) : Printable v := by
  unfold Json.readItems at hread
  split at hread
  · cases hread
  · next item rest' hitem =>
      have hacc' : ∀ v ∈ item :: acc, Printable v := List.forall_mem_cons.mpr ⟨h.value hitem, hacc⟩
      split at hread
      · exact h.items hacc' hread
      · cases hread
        exact .array fun v hv => hacc' v (List.mem_reverse.mp hv)
      · cases hread

theorem Yields.readFields {fuel : Nat} (h : Yields fuel) {acc : List (String × Json)} {v : Json}
    (hkeys : (Table.keys acc).Nodup) (hacc : ∀ entry ∈ acc, Printable entry.2)
    (hread : Json.readFields (fuel + 1) acc cs = .ok (v, rest)) : Printable v := by
  unfold Json.readFields at hread
  split at hread
  · split at hread
    · cases hread
    · next name rest₁ _ =>
        split at hread
        · split at hread
          · cases hread
          · next item rest₃ hitem =>
              have hkeys' := Table.nodup_keys_put hkeys name item
              have hacc' : ∀ entry ∈ Table.put acc name item, Printable entry.2 := by
                intro entry hentry
                rcases Table.mem_put hentry with rfl | hentry
                · exact h.value hitem
                · exact hacc entry hentry
              split at hread
              · exact h.fields hkeys' hacc' hread
              · cases hread
                exact .object hkeys' hacc'
              · cases hread
        · cases hread
  · cases hread

theorem yields (fuel : Nat) : Yields fuel := by
  induction fuel with
  | zero => exact ⟨(nomatch ·), fun _ => (nomatch ·), fun _ _ => (nomatch ·)⟩
  | succ fuel ih => exact ⟨ih.readValue, ih.readItems, ih.readFields⟩

theorem printable_of_parse {s : String} {v : Json} (h : parse s = .ok v) : Printable v := by
  unfold parse at h
  simp only at h
  split at h
  · cases h
  · next hread =>
      split at h
      · cases h
        exact (yields _).value hread
      · cases h

/-! ## One line -/

/-- Text without control characters, line breaks among them. -/
def Clear (cs : List Char) : Prop := ∀ c ∈ cs, 0x20 ≤ c.toNat

@[simp] theorem clear_nil : Clear [] := by simp [Clear]

@[simp] theorem clear_cons {c : Char} : Clear (c :: cs) ↔ 0x20 ≤ c.toNat ∧ Clear cs := by
  simp [Clear]

@[simp] theorem clear_append : Clear (cs ++ ds) ↔ Clear cs ∧ Clear ds := by
  simp [Clear, or_imp, forall_and]

theorem clear_printedChar (c : Char) : Clear (printedChar c) := by
  have hcontrol : ∀ n < 0x20, (printedChar (Char.ofNat n)).all fun d => 0x20 ≤ d.toNat := by
    decide
  rcases Nat.lt_or_ge c.toNat 0x20 with h | h
  · rw [← Char.ofNat_toNat c]
    exact fun d hd => of_decide_eq_true (List.all_eq_true.mp (hcontrol c.toNat h) d hd)
  · simp only [printedChar, if_neg (not_lt.mpr h)]
    repeat' split
    all_goals simp [h]

theorem clear_printedText (s : String) : Clear (printedText s).toList := by
  have hflat : Clear (s.toList.flatMap printedChar) := by
    intro c hc
    obtain ⟨c', -, hc'⟩ := List.mem_flatMap.mp hc
    exact clear_printedChar c' c hc'
  simp [toList_printedText, hflat]

theorem Digits.clear (h : Digits ds) : Clear ds := by
  intro c hc
  have hlow : 48 ≤ c.toNat := (Char.isDigit_iff_toNat.mp (h.isDigit c hc)).1
  omega

theorem clear_sign (h : cs ∈ [[], ['+'], ['-']]) : Clear cs := by
  simp only [List.mem_cons, List.not_mem_nil, or_false] at h
  rcases h with rfl | rfl | rfl <;> simp

theorem Fraction.clear (h : Fraction fr) : Clear fr := by
  cases h with
  | none => simp
  | some hds => simp [hds.clear]

theorem Exponent.clear (h : Exponent ex) : Clear ex := by
  cases h with
  | none => simp
  | some he hsign hds => rcases he with rfl | rfl <;> simp [clear_sign hsign, hds.clear]

theorem Numeric.clear {v : Json} (hv : Numeric v) : Clear (line v).toList := by
  cases hv with
  | @number n hn =>
      rw [line, toList_toString, clear_append]
      exact ⟨clear_sign (by split <;> simp), (whole_toDigits n.natAbs).clear⟩
  | decimal hl =>
      cases hl with
      | word hword =>
          have hwords : ∀ word ∈ words, ∀ c ∈ word.1, 0x20 ≤ c.toNat := by simp [words]
          exact hwords _ hword
      | number hminus hds hfr hex hne =>
          have hsigns : [[], ['-']] ⊆ [[], ['+'], ['-']] := by simp
          simp [line, clear_sign (hsigns hminus), hds.clear, hfr.clear, hex.clear]

theorem clear_lineItems {items : List Json} (h : ∀ v ∈ items, Clear (line v).toList) :
    Clear (lineItems items).toList := by
  induction items with
  | nil => simp [lineItems]
  | cons item items ih =>
      obtain ⟨hitem, hitems⟩ := List.forall_mem_cons.mp h
      cases items with
      | nil => exact hitem
      | cons next items => simp [toList_lineItems_cons, hitem, ih hitems]

theorem clear_lineFields {fields : List (String × Json)}
    (h : ∀ e ∈ fields, Clear (line e.2).toList) : Clear (lineFields fields).toList := by
  induction fields with
  | nil => simp [lineFields]
  | cons entry fields ih =>
      obtain ⟨hentry, hfields⟩ := List.forall_mem_cons.mp h
      have hfield : Clear (lineField entry) := by simp [lineField, clear_printedText, hentry]
      cases fields with
      | nil => rwa [toList_lineFields_singleton]
      | cons next fields => simp [toList_lineFields_cons, hfield, ih hfields]

/-- A printable value stands on a single line. -/
theorem Printable.clear {v : Json} (hv : Printable v) : Clear (line v).toList := by
  induction hv with
  | null => simp [line]
  | bool b => cases b <;> simp [line]
  | numeric h => exact h.clear
  | text s => exact clear_printedText s
  | array h ih => simp [line, clear_lineItems ih]
  | object hkeys h ih => simp [line, clear_lineFields ih]

end TrustWeb.Json
