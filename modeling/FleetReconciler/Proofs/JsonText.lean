import FleetReconciler.Json.Printer
import FleetReconciler.Json.Reader
import FleetReconciler.Proofs.RecordText

/-!
# The text of a JSON value

A value that is written with one item or member a line is read back as it was, as long as it holds
no doubles, its objects have their members in order, and it does not nest too deeply.

* `stringBody?_escaped` — a string between its quotes;
* `number?_digitsOf` — an integer of 64 bits;
* `Json.Storable` — the values that are read back, inside a number of arrays and objects;
* `parse?_pretty` — **reading the text of such a value gives the value**.
-/

namespace FleetReconciler

namespace Json

/-! ## Strings -/

theorem hexValue?_hexDigit : ∀ d, d < 16 → hexValue? (Text.hexDigit d) = some d := by decide

/-- A control is written by two digits behind two zeros. -/
theorem hexPadded_control {n : Nat} (h : n < 0x20) :
    Text.hexPadded 4 n = ['0', '0', Text.hexDigit (n / 16), Text.hexDigit (n % 16)] := by
  have hdigits : Text.hexDigits n =
      if n < 16 then [Text.hexDigit n] else [Text.hexDigit (n / 16), Text.hexDigit (n % 16)] := by
    rw [Text.hexDigits]
    split
    · rfl
    · rw [Text.hexDigits, if_pos (by omega)]
      rfl
  unfold Text.hexPadded
  rw [hdigits]
  split
  · rename_i hn
    rw [Nat.div_eq_of_lt hn, Nat.mod_eq_of_lt hn]
    rfl
  · rfl

/-- The code point of a control is read back. -/
theorem hex4?_control {n : Nat} (h : n < 0x20) :
    hex4? '0' '0' (Text.hexDigit (n / 16)) (Text.hexDigit (n % 16)) = some n := by
  have hhigh := hexValue?_hexDigit (n / 16) (by omega)
  have hlow := hexValue?_hexDigit (n % 16) (by omega)
  have hzero : hexValue? '0' = some 0 := by decide
  simp only [hex4?, hhigh, hlow, hzero, bind, Option.bind, pure, Option.some.injEq]
  omega

/-- A character that needs no escape stands for itself. -/
theorem stringBody?_plain {c : Char} (hquote : c ≠ '"') (hbackslash : c ≠ '\\')
    (hcontrol : ¬ c.toNat < 0x20) (rest : List Char) :
    stringBody? (c :: rest) = (stringBody? rest).map fun (cs, r) => (c :: cs, r) := by
  rw [stringBody?.eq_def]
  split
  · rename_i heq
    cases heq
  · rename_i heq
    exact (hquote (List.cons.inj heq).1).elim
  · rename_i heq
    exact (hbackslash (List.cons.inj heq).1).elim
  · rename_i heq
    exact (hbackslash (List.cons.inj heq).1).elim
  · rename_i heq
    obtain ⟨rfl, rfl⟩ := List.cons.inj heq
    exact if_neg hcontrol

theorem stringBody?_escapedChar (c : Char) (rest : List Char) :
    stringBody? (escapedChar c ++ rest) = (stringBody? rest).map fun (cs, r) => (c :: cs, r) := by
  unfold escapedChar
  -- seven characters have an escape of their own
  iterate 7
    split
    · subst_vars; simp [stringBody?, shortEscape?]
  split
  · rename_i hcontrol
    simp only [hexPadded_control hcontrol, List.cons_append, List.nil_append]
    rw [stringBody?, hex4?_control hcontrol]
    simp only
    rw [if_neg (by omega), if_neg (by omega), Char.ofNat_toNat]
  · rename_i hquote hbackslash _ _ _ _ _ hcontrol
    exact stringBody?_plain hquote hbackslash hcontrol rest

/-- A string between its quotes is read back. -/
theorem stringBody?_escaped (cs rest : List Char) :
    stringBody? (cs.flatMap escapedChar ++ '"' :: rest) = some (cs, rest) := by
  induction cs with
  | nil => simp [stringBody?]
  | cons c cs ih =>
    rw [List.flatMap_cons, List.append_assoc, stringBody?_escapedChar, ih]
    rfl

/-! ## Integers -/

/-- What may follow a number: nothing that would belong to it. -/
def EndsNumber (rest : List Char) : Prop :=
  ∀ c ∈ rest.head?, Decimal.isDigit c = false ∧ c ≠ '.' ∧ c ≠ 'e' ∧ c ≠ 'E'

theorem takeDigits_append {ds rest : List Char} (hds : ∀ c ∈ ds, Decimal.isDigit c = true)
    (hrest : EndsNumber rest) : Decimal.takeDigits (ds ++ rest) = (ds, rest) := by
  have htake : rest.takeWhile Decimal.isDigit = [] := by
    cases rest with
    | nil => rfl
    | cons c rest => simp [(hrest c rfl).1]
  have hdrop : rest.dropWhile Decimal.isDigit = rest := by
    cases rest with
    | nil => rfl
    | cons c rest => simp [(hrest c rfl).1]
  simp only [Decimal.takeDigits]
  rw [List.takeWhile_append_of_pos hds, List.dropWhile_append_of_pos hds, htake, hdrop,
    List.append_nil]

/-- The number that digits denote behind others. -/
def continued (significand : Nat) (ds : List Char) : Nat :=
  ds.foldl (fun n c => 10 * n + Decimal.digitValue c) significand

theorem le_continued (significand : Nat) (ds : List Char) :
    significand ≤ continued significand ds := by
  induction ds generalizing significand with
  | nil => exact Nat.le_refl _
  | cons d ds ih =>
    have hnext := ih (10 * significand + Decimal.digitValue d)
    unfold continued at hnext ⊢
    rw [List.foldl_cons]
    omega

/-- Digits that denote a number of 64 bits are all taken. -/
theorem accumulate_eq {ds : List Char} {significand : Nat}
    (h : continued significand ds ≤ maxSignificand) :
    accumulate significand ds = (continued significand ds, ds.length, 0) := by
  induction ds generalizing significand with
  | nil => rfl
  | cons d ds ih =>
    have hcons : continued significand (d :: ds) =
        continued (significand * 10 + Decimal.digitValue d) ds := by
      rw [Nat.mul_comm]
      rfl
    rw [hcons] at h ⊢
    have hnext := Nat.le_trans (le_continued _ ds) h
    simp only [accumulate, if_pos hnext, ih h, List.length_cons]

theorem digitChar_ne_zero : ∀ d, d < 10 → d ≠ 0 → Decimal.digitChar d ≠ '0' := by decide

/-- Only zero is written with a leading zero. -/
theorem head?_digitsOf {n : Nat} (h : n ≠ 0) : (Decimal.digitsOf n).head? ≠ some '0' := by
  rw [Decimal.digitsOf]
  split
  · rename_i hn
    simpa using digitChar_ne_zero n hn h
  · have hdiv : n / 10 ≠ 0 := by omega
    have hne : Decimal.digitsOf (n / 10) ≠ [] := List.ne_nil_of_length_pos (Decimal.length_digitsOf_pos _)
    rw [List.head?_append_of_ne_nil _ hne]
    exact head?_digitsOf hdiv
termination_by n
decreasing_by omega

/-- A natural number of 64 bits is read back, with either sign. -/
theorem number?_digitsOf {n : Nat} (h : n ≤ maxSignificand) (negative : Bool) {rest : List Char}
    (hrest : EndsNumber rest) :
    number? negative (Decimal.digitsOf n ++ rest) = some (integerNumber negative n, rest) := by
  have hvalue : continued 0 (Decimal.digitsOf n) = n := Decimal.valueOf_digitsOf n
  have hpos := Decimal.length_digitsOf_pos n
  have hhead : ¬ ((Decimal.digitsOf n).length > 1 ∧ (Decimal.digitsOf n).head? = some '0') := by
    rintro ⟨hlong, hzero⟩
    by_cases hn : n = 0
    · subst hn
      simp [Decimal.digitsOf] at hlong
    · exact head?_digitsOf hn hzero
  have haccumulate : accumulate 0 (Decimal.digitsOf n) = (n, (Decimal.digitsOf n).length, 0) := by
    rw [accumulate_eq (by rwa [hvalue]), hvalue]
  unfold number?
  rw [takeDigits_append (Decimal.isDigit_of_mem_digitsOf n) hrest]
  generalize Decimal.digitsOf n = ds at *
  cases ds with
  | nil => simp at hpos
  | cons d ds =>
    simp only
    rw [if_neg hhead, haccumulate]
    simp only
    cases rest with
    | nil => simp
    | cons c rest =>
      obtain ⟨hdigit, hpoint, hlower, hupper⟩ := hrest c rfl
      split <;> simp_all

/-! ## Values -/

/-- The integers that the reader gives. -/
def InRange (i : Int) : Prop := -(Nat.pow 2 63 : Nat) ≤ i ∧ i ≤ maxSignificand

mutual

/-- A value that is read back as it was from inside `depth` arrays and objects: without doubles, with
the members in order, and not too deep. -/
def Storable (depth : Nat) : Json → Prop
  | .null | .bool _ | .str _ => True
  | .num (.int i) => InRange i
  | .num (.float _) => False
  | .arr items => depth < maxDepth ∧ StorableItems (depth + 1) items
  | .obj members => depth < maxDepth ∧ Table.Ascending members ∧ StorableMembers (depth + 1) members

/-- Items that are read back. -/
def StorableItems (depth : Nat) : List Json → Prop
  | [] => True
  | x :: xs => Storable depth x ∧ StorableItems depth xs

/-- Members that are read back. -/
def StorableMembers (depth : Nat) : List (String × Json) → Prop
  | [] => True
  | (_, x) :: ms => Storable depth x ∧ StorableMembers depth ms

end

mutual

/-- How many steps the reader goes down at most while it reads a value. -/
def steps : Json → Nat
  | .arr items => 1 + stepsItems items
  | .obj members => 1 + stepsMembers members
  | _ => 1

/-- The steps of items. -/
def stepsItems : List Json → Nat
  | [] => 0
  | x :: xs => 1 + steps x + stepsItems xs

/-- The steps of members. -/
def stepsMembers : List (String × Json) → Nat
  | [] => 0
  | (_, x) :: ms => 1 + steps x + stepsMembers ms

end

/-! ### Blanks -/

theorem skipBlanks_newLine (depth : Nat) (cs : List Char) :
    skipBlanks (newLine depth ++ cs) = skipBlanks cs := by
  have hspaces (n : Nat) : skipBlanks (List.replicate n ' ' ++ cs) = skipBlanks cs := by
    induction n with
    | zero => rfl
    | succ n ih => simpa [List.replicate_succ, skipBlanks] using ih
  simp [newLine, skipBlanks, hspaces]

theorem value?_newLine (fuel depth level : Nat) (cs : List Char) :
    value? fuel depth (newLine level ++ cs) = value? fuel depth cs := by
  cases fuel with
  | zero => rfl
  | succ fuel => simp only [value?, skipBlanks_newLine]

theorem value?_space (fuel depth : Nat) (cs : List Char) :
    value? fuel depth (' ' :: cs) = value? fuel depth cs := by
  cases fuel with
  | zero => rfl
  | succ fuel => simp [value?, skipBlanks]

/-! ### Numbers -/

theorem ne_of_isDigit {d c : Char} (hd : Decimal.isDigit d = true) (hc : Decimal.isDigit c = false) :
    d ≠ c := fun h => Bool.noConfusion (hd.symm.trans (h ▸ hc))

theorem value?_digits (fuel depth : Nat) {d : Char} (hd : Decimal.isDigit d = true)
    (cs : List Char) : value? (fuel + 1) depth (d :: cs) =
      (number? false (d :: cs)).map fun (n, r) => (.num n, r) := by
  have hskip : skipBlanks (d :: cs) = d :: cs := by
    unfold skipBlanks
    refine if_neg ?_
    rintro (rfl | rfl | rfl | rfl) <;> cases hd
  rw [value?, hskip]
  simp [ne_of_isDigit hd (c := 'n') rfl, ne_of_isDigit hd (c := 't') rfl,
    ne_of_isDigit hd (c := 'f') rfl, ne_of_isDigit hd (c := '"') rfl,
    ne_of_isDigit hd (c := '-') rfl, ne_of_isDigit hd (c := '[') rfl,
    ne_of_isDigit hd (c := '\x7b') rfl]

/-- An integer of 64 bits is read back. -/
theorem value?_int {i : Int} (h : InRange i) (fuel depth : Nat) {rest : List Char}
    (hrest : EndsNumber rest) :
    value? (fuel + 1) depth ((Number.int i).text ++ rest) = some (.num (.int i), rest) := by
  obtain ⟨hlow, hhigh⟩ := h
  have hmin : Nat.pow 2 63 = 9223372036854775808 := rfl
  have hmax : maxSignificand = 18446744073709551615 := rfl
  have hsmall : i.natAbs ≤ maxSignificand := by omega
  by_cases hi : i < 0
  · have htext : (Number.int i).text = '-' :: Decimal.digitsOf i.natAbs := by
      simp [Number.text, Decimal.intText, hi, Decimal.text]
    have hnumber := number?_digitsOf hsmall true hrest
    have hinteger : integerNumber true i.natAbs = .int i := by
      unfold integerNumber
      rw [if_neg Bool.noConfusion, if_neg (by simp only [Nat.pow_eq]; omega)]
      congr 1
      omega
    rw [htext, List.cons_append, value?]
    simp [skipBlanks, hnumber, hinteger]
  · have htext : (Number.int i).text = Decimal.digitsOf i.natAbs := by
      simp [Number.text, Decimal.intText, hi, Decimal.text]
    have hnumber := number?_digitsOf hsmall false hrest
    have hinteger : integerNumber false i.natAbs = .int i := by
      unfold integerNumber
      rw [if_pos rfl]
      congr 1
      omega
    have hpos := Decimal.length_digitsOf_pos i.natAbs
    have hall := Decimal.isDigit_of_mem_digitsOf i.natAbs
    rw [htext]
    cases hds : Decimal.digitsOf i.natAbs with
    | nil => simp [hds] at hpos
    | cons d ds =>
      have hd : Decimal.isDigit d = true := hall d (hds ▸ List.mem_cons_self)
      rw [List.cons_append, value?_digits fuel depth hd, ← List.cons_append, ← hds, hnumber, hinteger]
      rfl

/-! ### Arrays and objects -/

/-- The text of an integer starts with a sign or a digit. -/
theorem numberText_cons (i : Int) :
    ∃ c cs, (Number.int i).text = c :: cs ∧ (c = '-' ∨ Decimal.isDigit c = true) := by
  by_cases hi : i < 0
  · exact ⟨'-', Decimal.digitsOf i.natAbs,
      by simp [Number.text, Decimal.intText, hi, Decimal.text], .inl rfl⟩
  · have hall := Decimal.isDigit_of_mem_digitsOf i.natAbs
    have hne := List.ne_nil_of_length_pos (Decimal.length_digitsOf_pos i.natAbs)
    obtain ⟨d, ds, hds⟩ := List.exists_cons_of_ne_nil hne
    exact ⟨d, ds, by simp [Number.text, Decimal.intText, hi, Decimal.text, hds],
      .inr (hall d (hds ▸ List.mem_cons_self))⟩

/-- The text of a value starts with a character that is neither blank nor a closing bracket. -/
theorem prettyText_cons (level : Nat) {depth : Nat} {j : Json} (h : j.Storable depth) :
    ∃ c cs, prettyText level j = c :: cs ∧
      c ≠ ' ' ∧ c ≠ '\n' ∧ c ≠ '\t' ∧ c ≠ '\r' ∧ c ≠ ']' := by
  cases j with
  | null => exact ⟨'n', _, rfl, by decide⟩
  | bool b => cases b <;> exact ⟨_, _, rfl, by decide⟩
  | num n =>
    cases n with
    | float b => exact h.elim
    | int i =>
      obtain ⟨c, cs, htext, rfl | hc⟩ := numberText_cons i
      · exact ⟨'-', cs, by rw [prettyText, htext], by decide⟩
      · exact ⟨c, cs, by rw [prettyText, htext], ne_of_isDigit hc rfl, ne_of_isDigit hc rfl,
          ne_of_isDigit hc rfl, ne_of_isDigit hc rfl, ne_of_isDigit hc rfl⟩
  | str s => exact ⟨'"', _, rfl, by decide⟩
  | arr items => cases items <;> exact ⟨'[', _, rfl, by decide⟩
  | obj members => cases members <;> exact ⟨'\x7b', _, rfl, by decide⟩

theorem items?_newLine (fuel depth level : Nat) (cs : List Char) :
    items? fuel depth (newLine level ++ cs) = items? fuel depth cs := by
  cases fuel with
  | zero => rfl
  | succ fuel => simp only [items?, value?_newLine]

theorem members?_newLine (fuel depth level : Nat) (cs : List Char) :
    members? fuel depth (newLine level ++ cs) = members? fuel depth cs := by
  cases fuel with
  | zero => rfl
  | succ fuel => simp only [members?, skipBlanks_newLine]

theorem endsNumber_newLine (level : Nat) (rest : List Char) :
    EndsNumber (newLine level ++ rest) := by
  intro c hc
  obtain rfl : '\n' = c := Option.some.inj hc
  decide

theorem endsNumber_items (level level' : Nat) (xs : List Json) (rest : List Char) :
    EndsNumber (prettyItems level xs ++ (newLine level' ++ rest)) := by
  cases xs with
  | nil => exact endsNumber_newLine level' rest
  | cons x xs =>
    intro c hc
    simp only [prettyItems, List.cons_append, List.head?_cons, Option.mem_some] at hc
    subst hc
    decide

theorem endsNumber_members (level level' : Nat) (ms : List (String × Json)) (rest : List Char) :
    EndsNumber (prettyMembers level ms ++ (newLine level' ++ rest)) := by
  cases ms with
  | nil => exact endsNumber_newLine level' rest
  | cons m ms =>
    intro c hc
    simp only [prettyMembers, List.cons_append, List.head?_cons, Option.mem_some] at hc
    subst hc
    decide

mutual

/-- A value is read back from its text, whatever follows that is not part of a number. -/
theorem value?_pretty : ∀ (j : Json) (fuel depth level : Nat) (rest : List Char),
    j.Storable depth → j.steps ≤ fuel → EndsNumber rest →
      value? fuel depth (prettyText level j ++ rest) = some (j, rest)
  | j, 0, depth, level, rest, _, hfuel, _ => by cases j <;> simp [steps] at hfuel
  | .null, fuel + 1, depth, level, rest, _, _, _ => by
    simp [prettyText, value?, skipBlanks, keyword?]
  | .bool true, fuel + 1, depth, level, rest, _, _, _ => by
    simp [prettyText, value?, skipBlanks, keyword?]
  | .bool false, fuel + 1, depth, level, rest, _, _, _ => by
    simp [prettyText, value?, skipBlanks, keyword?]
  | .str s, fuel + 1, depth, level, rest, _, _, _ => by
    simp [prettyText, stringText, value?, skipBlanks, stringBody?_escaped]
  | .num (.int i), fuel + 1, depth, level, rest, h, _, hrest => value?_int h fuel depth hrest
  | .num (.float b), fuel + 1, depth, level, rest, h, _, _ => h.elim
  | .arr [], fuel + 1, depth, level, rest, h, _, _ => by
    simp [prettyText, value?, skipBlanks, Nat.ne_of_lt h.1]
  | .arr (x :: xs), fuel + 1, depth, level, rest, h, hfuel, _ => by
    obtain ⟨hdepth, hitems⟩ := h
    have hread := items?_pretty x xs fuel (depth + 1) (level + 1) level rest hitems
      (by simp only [steps] at hfuel; omega)
    obtain ⟨c, cs, htext, hspace, hline, htab, hreturn, hclose⟩ :=
      prettyText_cons (level + 1) hitems.1
    rw [htext, List.cons_append] at hread
    simp only [prettyText, htext, List.cons_append, List.append_assoc, List.nil_append, value?,
      skipBlanks]
    simp [Nat.ne_of_lt hdepth, skipBlanks_newLine, skipBlanks, hspace, hline, htab, hreturn, hclose,
      hread]
  | .obj [], fuel + 1, depth, level, rest, h, _, _ => by
    simp [prettyText, value?, skipBlanks, Nat.ne_of_lt h.1]
  | .obj ((n, x) :: ms), fuel + 1, depth, level, rest, h, hfuel, _ => by
    obtain ⟨hdepth, hascending, hmembers⟩ := h
    have hread := members?_pretty n x ms fuel (depth + 1) (level + 1) level rest hmembers
      (by simp only [steps] at hfuel; omega)
    simp only [stringText, List.cons_append, List.append_assoc, List.nil_append] at hread
    simp only [prettyText, stringText, List.cons_append, List.append_assoc, List.nil_append, value?,
      skipBlanks]
    simp [Nat.ne_of_lt hdepth, skipBlanks_newLine, skipBlanks, hread,
      Table.ofList_of_ascending hascending]

termination_by _ fuel => fuel

/-- Items are read back up to the closing bracket. -/
theorem items?_pretty : ∀ (x : Json) (xs : List Json) (fuel depth level level' : Nat)
    (rest : List Char), StorableItems depth (x :: xs) → stepsItems (x :: xs) ≤ fuel →
      items? fuel depth (prettyText level x ++ (prettyItems level xs ++
        (newLine level' ++ ']' :: rest))) = some (x :: xs, rest)
  | x, xs, 0, depth, level, level', rest, _, hfuel => by simp [stepsItems] at hfuel
  | x, xs, fuel + 1, depth, level, level', rest, h, hfuel => by
    simp only [stepsItems] at hfuel
    have hx := value?_pretty x fuel depth level _ h.1 (by omega)
      (endsNumber_items level level' xs (']' :: rest))
    rw [items?, hx]
    simp only
    cases xs with
    | nil => simp [prettyItems, skipBlanks_newLine, skipBlanks]
    | cons y ys =>
      have hys := items?_pretty y ys fuel depth level level' rest h.2 (by omega)
      simp [prettyItems, skipBlanks, items?_newLine, hys]

termination_by _ _ fuel => fuel

/-- Members are read back up to the closing brace. -/
theorem members?_pretty : ∀ (n : String) (x : Json) (ms : List (String × Json))
    (fuel depth level level' : Nat) (rest : List Char), StorableMembers depth ((n, x) :: ms) →
    stepsMembers ((n, x) :: ms) ≤ fuel →
      members? fuel depth (stringText n ++ ':' :: ' ' :: (prettyText level x ++
        (prettyMembers level ms ++ (newLine level' ++ '\x7d' :: rest)))) = some ((n, x) :: ms, rest)
  | n, x, ms, 0, depth, level, level', rest, _, hfuel => by simp [stepsMembers] at hfuel
  | n, x, ms, fuel + 1, depth, level, level', rest, h, hfuel => by
    simp only [stepsMembers] at hfuel
    have hx := value?_pretty x fuel depth level _ h.1 (by omega)
      (endsNumber_members level level' ms ('\x7d' :: rest))
    have hname := stringBody?_escaped n.toList (':' :: ' ' :: (prettyText level x ++
      (prettyMembers level ms ++ (newLine level' ++ '\x7d' :: rest))))
    have hcolon := value?_space fuel depth (prettyText level x ++
      (prettyMembers level ms ++ (newLine level' ++ '\x7d' :: rest)))
    simp only [members?, stringText, List.cons_append, List.append_assoc, List.nil_append, skipBlanks,
      Char.reduceEq, or_self, if_false, hname, hcolon, hx, String.ofList_toList]
    cases ms with
    | nil => simp [prettyMembers, skipBlanks_newLine, skipBlanks]
    | cons m ms =>
      obtain ⟨n', y⟩ := m
      have hms := members?_pretty n' y ms fuel depth level level' rest h.2 (by omega)
      simp [skipBlanks, prettyMembers, members?_newLine, hms]
termination_by _ _ _ fuel => fuel

end

/-! ### Whole texts -/

theorem one_le_length_newLine (level : Nat) : 1 ≤ (newLine level).length := by
  simp [newLine]

mutual

/-- The reader goes down no more steps than a text has characters. -/
theorem steps_le_length : ∀ (level : Nat) {depth : Nat} {j : Json}, j.Storable depth →
    j.steps ≤ (prettyText level j).length
  | _, _, .null, _ => by simp [steps, prettyText]
  | _, _, .bool true, _ => by simp [steps, prettyText]
  | _, _, .bool false, _ => by simp [steps, prettyText]
  | _, _, .num (.int i), _ => by
    obtain ⟨c, cs, htext, -⟩ := numberText_cons i
    simp [steps, prettyText, htext]
  | _, _, .num (.float b), h => h.elim
  | _, _, .str s, _ => by simp [steps, prettyText, stringText]
  | _, _, .arr [], _ => by simp [steps, stepsItems, prettyText]
  | level, _, .arr (x :: xs), h => by
    have hx := steps_le_length (level + 1) h.2.1
    have hxs := stepsItems_le_length (level + 1) h.2.2
    have hline := one_le_length_newLine (level + 1)
    simp only [steps, stepsItems, prettyText, List.length_cons, List.length_append]
    omega
  | _, _, .obj [], _ => by simp [steps, stepsMembers, prettyText]
  | level, _, .obj ((n, x) :: ms), h => by
    have hx := steps_le_length (level + 1) h.2.2.1
    have hms := stepsMembers_le_length (level + 1) h.2.2.2
    have hline := one_le_length_newLine (level + 1)
    simp only [steps, stepsMembers, prettyText, List.length_cons, List.length_append]
    omega

theorem stepsItems_le_length : ∀ (level : Nat) {depth : Nat} {xs : List Json},
    StorableItems depth xs → stepsItems xs ≤ (prettyItems level xs).length
  | _, _, [], _ => by simp [stepsItems]
  | level, _, x :: xs, h => by
    have hx := steps_le_length level h.1
    have hxs := stepsItems_le_length level h.2
    simp only [stepsItems, prettyItems, List.length_cons, List.length_append]
    omega

theorem stepsMembers_le_length : ∀ (level : Nat) {depth : Nat} {ms : List (String × Json)},
    StorableMembers depth ms → stepsMembers ms ≤ (prettyMembers level ms).length
  | _, _, [], _ => by simp [stepsMembers]
  | level, _, (n, x) :: ms, h => by
    have hx := steps_le_length level h.1
    have hms := stepsMembers_le_length level h.2
    simp only [stepsMembers, prettyMembers, List.length_cons, List.length_append]
    omega

end

/-- **Reading the text of a value gives the value.** -/
theorem parse?_pretty {j : Json} (h : j.Storable 0) : parse? j.pretty = some j := by
  have hsteps := steps_le_length 0 h
  have hread := value?_pretty j (2 * (prettyText 0 j).length + 2) 0 0 [] h (by omega) nofun
  rw [List.append_nil] at hread
  simp [parse?, pretty, hread, skipBlanks]

end Json

end FleetReconciler
