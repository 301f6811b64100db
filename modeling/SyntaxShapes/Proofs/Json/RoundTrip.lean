import SyntaxShapes.Json.Parser
import SyntaxShapes.Json.Printer

/-!
# `SyntaxShapes.Proofs.Json.RoundTrip` — what is written reads back

Writing a value and reading the text gives the value back, in every layout that puts only blanks between
the words. Three things could get in the way, and a value is `Plain` when none of them does. A text has room
for so many nested containers and no more; a repeated key would be merged with its earlier place; and a
floating-point number may come back with another last bit, so there must be none.

The reader is a machine, so the round trip is a statement about the machine: in front of any rest of the
text, and whatever is open around it, a written value takes the machine to the state after that value
(`ReadsBack`). The rest only must not go on with a number that has just been written.

## Contents
- **Numbers.** `EndsNumber`; `scanNumeral?_intText`, `next?_intText`.
- **Machine.** `run_append_of_blank`, `run_of_next?`, `run_quote`.
- **Containers.** `ReadsBack`; `run_writeItems`, `run_writeMembers`; `readsBack_array`, `readsBack_object`.
- **Values.** `Value.Plain`, `Value.Plain.readsBack`; `parse?_write`.
-/

namespace SyntaxShapes.Json

/-! ## Numbers -/

/-- Whether a text does not go on with a number that ends in front of it. -/
def EndsNumber (cs : List Char) : Prop :=
  ∀ c ∈ cs.head?, c.isDigit = false ∧ c ≠ '.' ∧ c ≠ 'e' ∧ c ≠ 'E'

variable {cs rest : List Char} {c : Char}

/-- Digits are scanned up to what ends a number. -/
theorem scanDigits_append {ds : List Char} (hds : ∀ d ∈ ds, d.isDigit = true) (h : EndsNumber rest) :
    Numeral.scanDigits (ds ++ rest) = (ds, rest) := by
  unfold Numeral.scanDigits
  rw [List.takeWhile_append_of_pos hds, List.dropWhile_append_of_pos hds]
  cases rest with
  | nil => simp
  | cons c cs => simp [(h c rfl).1]

/-- The digits of a number do not start with a zero, but for zero itself. -/
theorem isWhole_toDigits (n : Nat) : isWhole (Nat.toDigits 10 n) = true := by
  -- all digits but the last are those of a tenth of the number, which is positive if there are any
  have hhead : ∀ n, 0 < n → ∃ d ds, Nat.toDigits 10 n = d :: ds ∧ d ≠ '0' := by
    intro n
    induction n using Nat.strongRecOn with
    | ind n ih =>
        intro hn
        by_cases hlt : n < 10
        · refine ⟨n.digitChar, [], Nat.toDigits_of_lt_base hlt, ?_⟩
          have hdigit : ∀ k < 10, 0 < k → k.digitChar ≠ '0' := by decide
          exact hdigit n hlt hn
        · obtain ⟨d, ds, hds, hd⟩ := ih (n / 10) (by omega) (by omega)
          refine ⟨d, ds ++ [(n % 10).digitChar], ?_, hd⟩
          rw [Nat.toDigits_eq_if (by decide), if_neg hlt, hds]
          rfl
  by_cases hn : n = 0
  · rw [hn]
    decide
  · obtain ⟨d, ds, hds, hd⟩ := hhead n (by omega)
    rw [hds]
    unfold isWhole
    split
    · rename_i heq
      cases heq
    · rename_i heq
      exact absurd (List.cons.inj heq).1 hd
    · rfl

/-- The parts of a written integer. -/
def numeralOfInt (i : Int) : Numeral := ⟨decide (i < 0), Nat.toDigits 10 i.natAbs, none, none⟩

theorem scanMinus_intText (i : Int) (rest : List Char) :
    scanMinus (intText i ++ rest) = (decide (i < 0), Nat.toDigits 10 i.natAbs ++ rest) := by
  unfold intText
  by_cases hi : i < 0
  · rw [if_pos hi]
    simp [scanMinus, hi]
  · rw [if_neg hi, decide_eq_false hi]
    unfold scanMinus
    split
    · -- a digit is no minus
      rename_i cs heq
      have hmem : '-' ∈ Nat.toDigits 10 i.natAbs := by
        cases hds : Nat.toDigits 10 i.natAbs with
        | nil => exact absurd hds Nat.toDigits_ne_nil
        | cons d ds =>
            rw [hds] at heq
            rw [(List.cons.inj heq).1]
            exact List.mem_cons_self
      exact absurd (Nat.isDigit_of_mem_toDigits (by decide) (by decide) hmem) (by decide)
    · rfl

theorem scanNumeral?_intText (i : Int) (h : EndsNumber rest) :
    scanNumeral? (intText i ++ rest) = some (numeralOfInt i, rest) := by
  have hdigits := scanDigits_append
    (fun d hd => Nat.isDigit_of_mem_toDigits (b := 10) (n := i.natAbs) (by decide) (by decide) hd) h
  have hfraction : scanFraction? rest = some (none, rest) := by
    unfold scanFraction?
    split
    · exact absurd rfl (h '.' rfl).2.1
    · rfl
  have hexponent : Numeral.scanExponent? rest = some (none, rest) := by
    cases rest with
    | nil => rfl
    | cons c cs => simp [Numeral.scanExponent?, (h c rfl).2.2]
  unfold scanNumeral?
  simp only [scanMinus_intText, hdigits, isWhole_toDigits, if_true, hfraction, hexponent, Option.bind_some]
  rfl

theorem ofNumeral?_numeralOfInt {i : Int} (hlo : -2 ^ 63 ≤ i) (hhi : i < 2 ^ 64) :
    Number.ofNumeral? (numeralOfInt i) = some (.int i) := by
  have hint : intOfNumeral? (numeralOfInt i) = some i := by
    unfold intOfNumeral? numeralOfInt maxWord
    simp only [Numeral.digitsValue_toDigits, Option.isSome_none, Bool.or_self, Bool.false_eq_true, if_false,
      decide_eq_true_eq]
    split
    · rw [if_pos (by omega)]
      congr 1
      omega
    · rw [if_pos (by omega)]
      congr 1
      omega
  unfold Number.ofNumeral?
  rw [hint]

namespace Lexeme

/-- A word that begins with a minus or a digit is a number. -/
theorem next?_of_isDigit (h : c = '-' ∨ c.isDigit = true) :
    next? (c :: cs) = (scanNumeral? (c :: cs)).bind fun (n, rest) =>
      (Number.ofNumeral? n).map fun x => (.scalar (.number x), rest) := by
  unfold next?
  split
  case h_11 => rfl
  all_goals
    rename_i heq
    rw [(List.cons.inj heq).1] at h
    exact absurd h (by decide)

end Lexeme

/-- The text of an integer begins with a minus sign or a digit. -/
theorem exists_intText_eq_cons (i : Int) : ∃ c cs, intText i = c :: cs ∧ (c = '-' ∨ c.isDigit = true) := by
  unfold intText
  split
  · exact ⟨_, _, rfl, Or.inl rfl⟩
  · cases hds : Nat.toDigits 10 i.natAbs with
    | nil => exact absurd hds Nat.toDigits_ne_nil
    | cons d ds =>
        refine ⟨d, ds, rfl, Or.inr (Nat.isDigit_of_mem_toDigits (b := 10) (n := i.natAbs) (by decide) (by decide) ?_)⟩
        rw [hds]
        exact List.mem_cons_self

/-! ## Machine -/

variable {s s' : State} {fs : List Frame}

/-- The parser passes over blanks. -/
theorem run_append_of_blank {bs : List Char} (hbs : ∀ b ∈ bs, isSpace b = true) :
    run s (bs ++ cs) = run s cs := by
  induction bs with
  | nil => rfl
  | cons b bs ih =>
      rw [List.forall_mem_cons] at hbs
      rw [List.cons_append, run, if_pos hbs.1, ih hbs.2]

/-- A word takes the machine one step. -/
theorem run_of_next? {l : Lexeme} (hc : isSpace c = false) (hnext : Lexeme.next? (c :: cs) = some (l, rest))
    (hstep : s.step l = some s') : run s (c :: cs) = run s' rest := by
  rw [run, if_neg (by rw [hc]; decide)]
  split
  · rename_i heq
    rw [hnext] at heq
    cases heq
  · rename_i l' rest' heq
    rw [hnext] at heq
    obtain ⟨rfl, rfl⟩ := Prod.mk.inj (Option.some.inj heq)
    rw [hstep]

theorem run_quote {t : String} (hstep : s.step (.text t) = some s') :
    run s (quote t ++ rest) = run s' rest := by
  have hnext : Lexeme.next? ('"' :: (t.toList.flatMap escapeChar ++ '"' :: rest)) = some (.text t, rest) := by
    unfold Lexeme.next?
    simp only [scanText?_quote, Option.map_some]
  have hquote : quote t ++ rest = '"' :: (t.toList.flatMap escapeChar ++ '"' :: rest) := by simp [quote]
  rw [hquote]
  exact run_of_next? rfl hnext hstep

/-- A scalar is taken wherever a value is awaited. -/
theorem State.step_scalar (s : State) (v : Value) : s.step (.scalar v) = s.awaiting?.map (deliver v) := by
  cases s <;> rfl

theorem State.step_text (hs : s.awaiting? = some fs) (t : String) :
    s.step (.text t) = some (deliver (.string t) fs) := by
  cases s with
  | value gs | firstItem gs =>
      obtain rfl := Option.some.inj hs
      rfl
  | _ => cases hs

/-- An array can be opened wherever a value is awaited and there is room. -/
theorem State.step_openArray (hs : s.awaiting? = some fs) (hroom : fs.length < maxOpen) :
    s.step .openArray = some (.firstItem fs) := by
  have hstep : s.step .openArray = s.awaiting?.bind fun fs =>
      if fs.length < maxOpen then some (.firstItem fs) else none := by cases s <;> rfl
  rw [hstep, hs, Option.bind_some, if_pos hroom]

theorem State.step_openObject (hs : s.awaiting? = some fs) (hroom : fs.length < maxOpen) :
    s.step .openObject = some (.firstKey fs) := by
  have hstep : s.step .openObject = s.awaiting?.bind fun fs =>
      if fs.length < maxOpen then some (.firstKey fs) else none := by cases s <;> rfl
  rw [hstep, hs, Option.bind_some, if_pos hroom]

/-- The parser reads the text of an integer in one step. -/
theorem run_intText {i : Int} (hlo : -2 ^ 63 ≤ i) (hhi : i < 2 ^ 64) (hs : s.awaiting? = some fs)
    (hrest : EndsNumber rest) : run s (intText i ++ rest) = run (.deliver (.number (.int i)) fs) rest := by
  obtain ⟨c, cs, hcs, hc⟩ := exists_intText_eq_cons i
  have hscan := scanNumeral?_intText i hrest
  rw [hcs, List.cons_append] at hscan ⊢
  refine run_of_next? ?_ ?_ (l := .scalar (.number (.int i))) (by rw [State.step_scalar, hs]; rfl)
  · -- neither a minus nor a digit is a blank
    unfold isSpace
    rcases hc with rfl | hc
    · decide
    · rw [Bool.or_eq_false_iff, Bool.or_eq_false_iff, Bool.or_eq_false_iff]
      refine ⟨⟨⟨?_, ?_⟩, ?_⟩, ?_⟩
      all_goals
        rw [beq_eq_false_iff_ne]
        rintro rfl
        exact absurd hc (by decide)
  · rw [Lexeme.next?_of_isDigit hc, hscan, Option.bind_some]
    show (Number.ofNumeral? (numeralOfInt i)).map _ = _
    rw [ofNumeral?_numeralOfInt hlo hhi]
    rfl

/-! ## Containers -/

/-- Whether a layout puts nothing but blanks between the words. -/
structure Layout.Blank (L : Layout) : Prop where
  /-- Before an item. -/
  lineStart : ∀ depth, ∀ b ∈ L.lineStart depth, isSpace b = true
  /-- Behind the colon of a member. -/
  separator : ∃ bs, L.separator = ':' :: bs ∧ ∀ b ∈ bs, isSpace b = true

/-- The indented layout puts nothing but blanks between lexemes. -/
theorem Layout.blank_indented : Layout.indented.Blank where
  lineStart depth b hb := by
    rcases List.mem_cons.mp hb with rfl | hb
    · rfl
    · rw [(List.mem_replicate.mp hb).2]
      rfl
  separator := by
    refine ⟨[' '], rfl, fun b hb => ?_⟩
    rw [List.mem_singleton.mp hb]
    rfl

theorem endsNumber_cons (h : c.isDigit = false ∧ c ≠ '.' ∧ c ≠ 'e' ∧ c ≠ 'E') : EndsNumber (c :: cs) := by
  intro d hd
  obtain rfl := Option.some.inj hd
  exact h

/-- A blank ends a number. -/
theorem endsNumber_append {bs : List Char} (hbs : ∀ b ∈ bs, isSpace b = true) (h : EndsNumber cs) :
    EndsNumber (bs ++ cs) := by
  cases bs with
  | nil => exact h
  | cons b bs =>
      have hb := hbs b List.mem_cons_self
      simp only [isSpace, Bool.or_eq_true, beq_iff_eq] at hb
      refine endsNumber_cons ?_
      rcases hb with ((rfl | rfl) | rfl) | rfl
      all_goals decide

/-- Whether the text of a value takes the machine to the state after that value, wherever a value may stand
and so many more containers may be opened. -/
def ReadsBack (L : Layout) (room : Nat) (v : Value) : Prop :=
  ∀ {s : State} {fs : List Frame} {rest : List Char} (depth : Nat), s.awaiting? = some fs →
    fs.length + room ≤ State.maxOpen → EndsNumber rest →
      run s (v.write L depth ++ rest) = run (.deliver v fs) rest

variable {L : Layout} {room : Nat}

/-- The items after the first, one by one. -/
theorem run_writeItems (hL : L.Blank) {vs done : List Value} (hvs : ∀ v ∈ vs, ReadsBack L room v)
    (hroom : fs.length + 1 + room ≤ State.maxOpen) (depth : Nat) (hrest : EndsNumber rest) :
    run (.afterItem done fs) (Value.writeItems L depth vs ++ rest) =
      run (.afterItem (vs.reverse ++ done) fs) rest := by
  induction vs generalizing done with
  | nil => rfl
  | cons v vs ih =>
      rw [List.forall_mem_cons] at hvs
      have hnext : EndsNumber (Value.writeItems L depth vs ++ rest) := by
        cases vs with
        | nil => exact hrest
        | cons w ws => exact endsNumber_cons (by decide)
      have hopen : (Frame.items done :: fs).length + room ≤ State.maxOpen := hroom
      simp only [Value.writeItems, List.cons_append, List.append_assoc]
      rw [run_of_next? (l := .comma) rfl rfl rfl, run_append_of_blank (hL.lineStart depth),
        hvs.1 depth rfl hopen hnext, State.deliver, ih hvs.2]
      simp

/-- An array reads back if its items do, with one level less of room. -/
theorem readsBack_array (hL : L.Blank) {vs : List Value} (hvs : ∀ v ∈ vs, ReadsBack L room v) :
    ReadsBack L (room + 1) (.array vs) := by
  intro s fs rest depth hs hroom hrest
  have hopen := State.step_openArray hs (by omega)
  cases vs with
  | nil =>
      show run s ('[' :: ']' :: rest) = _
      rw [run_of_next? rfl rfl hopen, run_of_next? (l := .closeArray) rfl rfl rfl]
  | cons v vs =>
      rw [List.forall_mem_cons] at hvs
      have hend : EndsNumber (L.lineStart depth ++ ']' :: rest) :=
        endsNumber_append (hL.lineStart depth) (endsNumber_cons (by decide))
      have hnext : EndsNumber (Value.writeItems L (depth + 1) vs ++ (L.lineStart depth ++ ']' :: rest)) := by
        cases vs with
        | nil => exact hend
        | cons w ws => exact endsNumber_cons (by decide)
      simp only [Value.write, List.cons_append, List.append_assoc, List.nil_append]
      rw [run_of_next? rfl rfl hopen, run_append_of_blank (hL.lineStart (depth + 1)),
        hvs.1 (depth + 1) rfl (by simp only [List.length_cons]; omega) hnext, State.deliver,
        run_writeItems hL hvs.2 (by omega) (depth + 1) hend, run_append_of_blank (hL.lineStart depth),
        run_of_next? (l := .closeArray) rfl rfl rfl]
      simp

theorem Members.put_of_not_mem {key : String} {v : Value} {ms : Members} (h : key ∉ ms.map (·.1)) :
    Members.put key v ms = ms ++ [(key, v)] := by
  induction ms with
  | nil => rfl
  | cons m ms ih =>
      rw [List.map_cons, List.mem_cons, not_or] at h
      unfold Members.put
      rw [if_neg fun he => h.1 he.symm, ih h.2]
      rfl

/-- One member, from the key on. -/
theorem run_writeMember (hL : L.Blank) {key : String} {v : Value} {done : Members} (hv : ReadsBack L room v)
    (hs : s.step (.text key) = some (.colon key done fs)) (hkey : key ∉ done.map (·.1))
    (hroom : fs.length + 1 + room ≤ State.maxOpen) (depth : Nat) (hrest : EndsNumber rest) :
    run s (quote key ++ (L.separator ++ (v.write L depth ++ rest))) =
      run (.afterMember (done ++ [(key, v)]) fs) rest := by
  obtain ⟨bs, hseparator, hbs⟩ := hL.separator
  have hopen : (Frame.member done key :: fs).length + room ≤ State.maxOpen := hroom
  rw [run_quote hs, hseparator, List.cons_append, run_of_next? (l := .colon) rfl rfl rfl,
    run_append_of_blank hbs, hv depth rfl hopen hrest, State.deliver, Members.put_of_not_mem hkey]

/-- The members after the first, one by one. -/
theorem run_writeMembers (hL : L.Blank) {ms done : Members} (hms : ∀ m ∈ ms, ReadsBack L room m.2)
    (hkeys : ((done ++ ms).map (·.1)).Nodup) (hroom : fs.length + 1 + room ≤ State.maxOpen) (depth : Nat)
    (hrest : EndsNumber rest) :
    run (.afterMember done fs) (Value.writeMembers L depth ms ++ rest) = run (.afterMember (done ++ ms) fs) rest := by
  induction ms generalizing done with
  | nil =>
      rw [List.append_nil]
      rfl
  | cons m ms ih =>
      obtain ⟨key, v⟩ := m
      rw [List.forall_mem_cons] at hms
      have hnext : EndsNumber (Value.writeMembers L depth ms ++ rest) := by
        cases ms with
        | nil => exact hrest
        | cons m ms => exact endsNumber_cons (by decide)
      have hkey : key ∉ done.map (·.1) := by
        rw [List.map_append, List.map_cons, List.nodup_append] at hkeys
        intro hmem
        exact hkeys.2.2 key hmem key List.mem_cons_self rfl
      have hkeys' : ((done ++ [(key, v)] ++ ms).map (·.1)).Nodup := by
        rw [List.append_assoc]
        exact hkeys
      simp only [Value.writeMembers, List.cons_append, List.append_assoc]
      rw [run_of_next? (l := .comma) rfl rfl rfl, run_append_of_blank (hL.lineStart depth),
        run_writeMember hL hms.1 rfl hkey hroom depth hnext, ih hms.2 hkeys', List.append_assoc]
      rfl

/-- An object with distinct keys reads back if its members do, with one level less of room. -/
theorem readsBack_object (hL : L.Blank) {ms : Members} (hkeys : (ms.map (·.1)).Nodup)
    (hms : ∀ m ∈ ms, ReadsBack L room m.2) : ReadsBack L (room + 1) (.object ms) := by
  intro s fs rest depth hs hroom hrest
  have hopen := State.step_openObject hs (by omega)
  cases ms with
  | nil =>
      show run s ('\x7b' :: '\x7d' :: rest) = _
      rw [run_of_next? rfl rfl hopen, run_of_next? (l := .closeObject) rfl rfl rfl]
  | cons m ms =>
      obtain ⟨key, v⟩ := m
      rw [List.forall_mem_cons] at hms
      have hend : EndsNumber (L.lineStart depth ++ '\x7d' :: rest) :=
        endsNumber_append (hL.lineStart depth) (endsNumber_cons (by decide))
      have hnext : EndsNumber (Value.writeMembers L (depth + 1) ms ++ (L.lineStart depth ++ '\x7d' :: rest)) := by
        cases ms with
        | nil => exact hend
        | cons m ms => exact endsNumber_cons (by decide)
      simp only [Value.write, List.cons_append, List.append_assoc, List.nil_append]
      rw [run_of_next? rfl rfl hopen, run_append_of_blank (hL.lineStart (depth + 1)),
        run_writeMember hL hms.1 rfl List.not_mem_nil (by omega) (depth + 1) hnext,
        run_writeMembers hL hms.2 hkeys (by omega) (depth + 1) hend, run_append_of_blank (hL.lineStart depth),
        run_of_next? (l := .closeObject) rfl rfl rfl]
      rfl

/-! ## Values -/

/-- Whether a value is written without loss: it has no floating-point number and no repeated key, its
integers are of sixty-four bits, and its containers are nested so deep at most. -/
inductive Value.Plain : Nat → Value → Prop
  | null {room : Nat} : Plain room .null
  | bool {room : Nat} (b : Bool) : Plain room (.bool b)
  | int {room : Nat} {i : Int} (lower : -2 ^ 63 ≤ i) (upper : i < 2 ^ 64) : Plain room (.number (.int i))
  | string {room : Nat} (s : String) : Plain room (.string s)
  | array {room : Nat} {vs : List Value} (items : ∀ v ∈ vs, Plain room v) : Plain (room + 1) (.array vs)
  | object {room : Nat} {ms : Members} (keys : (ms.map (·.1)).Nodup) (items : ∀ m ∈ ms, Plain room m.2) :
      Plain (room + 1) (.object ms)

theorem Value.plain_nat {n : Nat} (h : n < 2 ^ 64) : Plain room (.nat n) :=
  .int (by omega) (by omega)

/-- A plain value reads back. -/
theorem Value.Plain.readsBack {v : Value} (hL : L.Blank) (hv : v.Plain room) : ReadsBack L room v := by
  induction hv with
  | null =>
      intro s fs rest depth hs _ _
      exact run_of_next? rfl rfl (by rw [State.step_scalar, hs]; rfl)
  | bool b =>
      intro s fs rest depth hs _ _
      cases b with
      | false => exact run_of_next? rfl rfl (by rw [State.step_scalar, hs]; rfl)
      | true => exact run_of_next? rfl rfl (by rw [State.step_scalar, hs]; rfl)
  | int lower upper =>
      intro s fs rest depth hs _ hrest
      exact run_intText lower upper hs hrest
  | string t =>
      intro s fs rest depth hs _ _
      exact run_quote (State.step_text hs t)
  | array _ ih => exact readsBack_array hL ih
  | object keys _ ih => exact readsBack_object hL keys ih

/-- **What is written reads back**, also with blanks behind it. -/
theorem parse?_write {v : Value} (hL : L.Blank) (hv : v.Plain State.maxOpen) {after : List Char}
    (hafter : ∀ b ∈ after, isSpace b = true) : parse? (String.ofList (v.write L 0 ++ after)) = some v := by
  have hend : EndsNumber after := by
    have hnil : EndsNumber [] := fun c hc => nomatch hc
    have happend := endsNumber_append hafter hnil
    rwa [List.append_nil] at happend
  have hrun : run (.value []) (v.write L 0 ++ after) = some (.complete v) := by
    rw [hv.readsBack hL 0 rfl (Nat.le_of_eq (Nat.zero_add _)) hend, ← List.append_nil after,
      run_append_of_blank hafter, run]
    rfl
  unfold parse?
  rw [String.toList_ofList, hrun]

end SyntaxShapes.Json
