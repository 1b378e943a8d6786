import CsdFoundry.Admission.Normal
import CsdFoundry.Encoding.Tokens
import CsdFoundry.Encoding.Utf8

/-! `json.loads` reads back every text that `json.dumps` writes for a value without floats. -/
namespace CsdFoundry.Encoding
open Admission Admission.Value

/-- No float, and in a dict one member for each key. -/
def isReadable : Value → Bool
  | .float _ => false
  | .dict members => (members.map (·.1)).Nodup
  | _ => true

section Atoms
variable {rest : List Char}

theorem ne_of_isDigit {c d : Char} (digit : c.isDigit = true) (other : d.isDigit = false) :
    d ≠ c := by
  rintro rfl
  rw [digit] at other
  cases other

theorem words_digit {c : Char} (digit : c.isDigit = true) :
    (words.find? fun word => word.1.toList.isPrefixOf (c :: rest)) = none := by
  have n : ('n' == c) = false := beq_eq_false_iff_ne.mpr (ne_of_isDigit digit rfl)
  have t : ('t' == c) = false := beq_eq_false_iff_ne.mpr (ne_of_isDigit digit rfl)
  have f : ('f' == c) = false := beq_eq_false_iff_ne.mpr (ne_of_isDigit digit rfl)
  have N : ('N' == c) = false := beq_eq_false_iff_ne.mpr (ne_of_isDigit digit rfl)
  have I : ('I' == c) = false := beq_eq_false_iff_ne.mpr (ne_of_isDigit digit rfl)
  have minus : ('-' == c) = false := beq_eq_false_iff_ne.mpr (ne_of_isDigit digit rfl)
  simp [words, List.isPrefixOf, n, t, f, N, I, minus]

theorem words_minus {c : Char} (digit : c.isDigit = true) :
    (words.find? fun word => word.1.toList.isPrefixOf ('-' :: c :: rest)) = none := by
  have I : ('I' == c) = false := beq_eq_false_iff_ne.mpr (ne_of_isDigit digit rfl)
  simp [words, List.isPrefixOf, I]

theorem scanAtom_digit {c : Char} (digit : c.isDigit = true) :
    scanAtom (c :: rest) = scanNumber false (c :: rest) := by
  have minus : c ≠ '-' := fun same => ne_of_isDigit digit rfl same.symm
  rw [scanAtom, words_digit digit]
  intro rest' same
  exact minus (List.cons.inj same).1

theorem scanAtom_minus {c : Char} (digit : c.isDigit = true) :
    scanAtom ('-' :: c :: rest) = scanNumber true (c :: rest) := by
  rw [scanAtom, words_minus digit]

theorem scanOnce_atom {text : List Char} (fuel : Nat)
    (first : ∀ c ∈ text.head?, c ≠ '"' ∧ c ≠ '[' ∧ c ≠ '\x7b') :
    scanOnce (fuel + 1) text = scanAtom text := by
  apply scanOnce.eq_5
  · rintro rest rfl
    exact (first _ rfl).1 rfl
  · rintro rest rfl
    exact (first _ rfl).2.1 rfl
  · rintro rest rfl
    exact (first _ rfl).2.2 rfl

theorem toDigits_cons (n : Nat) :
    ∃ c others, Nat.toDigits 10 n = c :: others ∧ c.isDigit = true := by
  cases digits : Nat.toDigits 10 n with
  | nil => exact absurd digits Nat.toDigits_ne_nil
  | cons c others =>
      have member : c ∈ Nat.toDigits 10 n := by
        rw [digits]
        exact List.mem_cons_self
      exact ⟨c, others, rfl, Nat.isDigit_of_mem_toDigits (by decide) (by decide) member⟩

theorem toList_toString (value : Int) : (toString value).toList =
    if 0 ≤ value then Nat.toDigits 10 value.natAbs else '-' :: Nat.toDigits 10 value.natAbs := by
  rw [Int.toString_eq_repr, Int.repr_eq_if]
  split_ifs with natural
  · have same : value.toNat = value.natAbs := by omega
    rw [Nat.toList_repr, same]
  · have same : (-value).toNat = value.natAbs := by omega
    rw [String.toList_append, Nat.toList_repr, same]
    rfl

theorem scanOnce_int {value : Int} (fuel : Nat) (short : hasDecimal value = true)
    (ends : Ends rest) :
    scanOnce (fuel + 1) ((toString value).toList ++ rest) = .ok (.int value, rest) := by
  have bound : value.natAbs < 10 ^ maxStrDigits := by
    unfold hasDecimal at short
    exact of_decide_eq_true short
  obtain ⟨c, others, digits, digit⟩ := toDigits_cons value.natAbs
  rw [toList_toString]
  split_ifs with natural
  · have read := @scanNumber_toDigits _ false _ bound ends
    have same : (value.natAbs : Int) = value := by omega
    rw [digits, List.cons_append] at read ⊢
    rw [scanOnce_atom, scanAtom_digit digit, read]
    · simp only [Bool.false_eq_true, if_false, same]
    · rintro d head
      cases head
      refine ⟨?_, ?_, ?_⟩ <;> exact fun equal => ne_of_isDigit digit rfl equal.symm
  · have read := @scanNumber_toDigits _ true _ bound ends
    have same : -(value.natAbs : Int) = value := by omega
    rw [List.cons_append]
    rw [digits, List.cons_append] at read ⊢
    rw [scanOnce_atom, scanAtom_minus digit, read]
    · simp only [if_true, same]
    · rintro d head
      cases head
      decide

end Atoms

theorem skip_cons {c : Char} {rest : List Char} (visible : isSpace c = false) :
    skip (c :: rest) = c :: rest := by
  rw [skip, List.dropWhile_cons_of_neg (by simp [visible])]

/-- How the text of a value starts. -/
theorem dumps_starts {value : Value} {text : List Char} (rendered : value.dumps = some text)
    (readable : isReadable value = true) :
    ∃ c rest, text = c :: rest ∧ isSpace c = false ∧ c ≠ ']' := by
  cases value with
  | null =>
      cases rendered
      exact ⟨'n', _, rfl, rfl, by decide⟩
  | bool value =>
      cases value <;> cases rendered
      · exact ⟨'f', _, rfl, rfl, by decide⟩
      · exact ⟨'t', _, rfl, rfl, by decide⟩
  | int value =>
      obtain ⟨c, others, digits, digit⟩ := toDigits_cons value.natAbs
      rw [dumps] at rendered
      split_ifs at rendered with short
      cases rendered
      rw [toList_toString]
      split_ifs
      · refine ⟨c, others, digits, ?_, fun equal => ne_of_isDigit digit rfl equal.symm⟩
        have apart : ∀ d : Char, d.isDigit = false → c ≠ d :=
          fun d other equal => ne_of_isDigit digit other equal.symm
        simp [isSpace, apart]
      · exact ⟨'-', _, rfl, rfl, by decide⟩
  | float repr => cases readable
  | str value =>
      cases value with
      | text value =>
          cases rendered
          exact ⟨'"', _, rfl, rfl, by decide⟩
      | lone value => cases rendered
  | list items =>
      rw [dumps, Option.map_eq_some_iff] at rendered
      obtain ⟨inner, -, rfl⟩ := rendered
      exact ⟨'[', _, rfl, rfl, by decide⟩
  | dict members =>
      rw [dumps, Option.map_eq_some_iff] at rendered
      obtain ⟨inner, -, rfl⟩ := rendered
      exact ⟨'\x7b', _, rfl, rfl, by decide⟩

/-- Pairs with distinct keys are the members of the dict made of them. -/
theorem dictOf_nodup {pairs : Dict} (distinct : (pairs.map (·.1)).Nodup) : dictOf pairs = pairs := by
  have grow : ∀ (later earlier : Dict), ((earlier ++ later).map (·.1)).Nodup →
      later.foldl (fun members pair => setItem members pair.1 pair.2) earlier = earlier ++ later := by
    intro later
    induction later with
    | nil => simp
    | cons pair later ih =>
        intro earlier distinct
        have fresh : (earlier.map (·.1)).contains pair.1 = false := by
          rw [List.map_append, List.nodup_append] at distinct
          rw [Bool.eq_false_iff]
          intro known
          exact distinct.2.2 _ (List.contains_iff_mem.mp known) _
            (List.mem_map_of_mem List.mem_cons_self) rfl
        rw [List.foldl_cons, setItem, if_neg (Bool.eq_false_iff.mp fresh), ih, List.append_assoc]
        · rfl
        · simpa using distinct
  exact grow pairs [] distinct
theorem Ends.of_cons {c : Char} {rest : List Char}
    (known : c = ',' ∨ c = ']' ∨ c = '\x7d' ∨ c = '\n') : Ends (c :: rest) := by
  intro d head
  cases head
  exact known

section Sequences
variable {fuel : Nat} {text rest tail : List Char} {item value : Value} {items : List Value}
  {key : PyStr} {pairs : Dict}

theorem scanItems_last (scanned : scanOnce fuel text = .ok (item, ']' :: rest)) :
    scanItems (fuel + 1) text = .ok ([item], rest) := by
  rw [scanItems, scanned]
  rfl

theorem scanItems_more (scanned : scanOnce fuel text = .ok (item, ',' :: rest))
    (visible : skip rest = rest) (others : scanItems fuel rest = .ok (items, tail)) :
    scanItems (fuel + 1) text = .ok (item :: items, tail) := by
  have comma : skip (',' :: rest) = ',' :: rest := rfl
  rw [scanItems, scanned]
  simp only [bind, Except.bind, comma, visible, others]

theorem scanMembers_last (name : scanString text = .ok (key, ':' :: rest))
    (visible : skip rest = rest) (scanned : scanOnce fuel rest = .ok (value, '\x7d' :: tail)) :
    scanMembers (fuel + 1) ('"' :: text) = .ok ([(key, value)], tail) := by
  have colon : skip (':' :: rest) = ':' :: rest := rfl
  have brace : skip ('\x7d' :: tail) = '\x7d' :: tail := rfl
  rw [scanMembers, name]
  simp only [bind, Except.bind, colon, visible, scanned, brace]

theorem scanMembers_more (name : scanString text = .ok (key, ':' :: rest))
    (visible : skip rest = rest) {others ends : List Char}
    (scanned : scanOnce fuel rest = .ok (value, ',' :: others)) (next : skip others = others)
    (more : scanMembers fuel others = .ok (pairs, ends)) :
    scanMembers (fuel + 1) ('"' :: text) = .ok ((key, value) :: pairs, ends) := by
  have colon : skip (':' :: rest) = ':' :: rest := rfl
  have comma : skip (',' :: others) = ',' :: others := rfl
  rw [scanMembers, name]
  simp only [bind, Except.bind, colon, visible, scanned, comma, next, more]

theorem dumpsItems_starts (rendered : dumpsItems (item :: items) = some text)
    (readable : isReadable item = true) :
    ∃ c rest, text = c :: rest ∧ isSpace c = false ∧ c ≠ ']' := by
  cases items with
  | nil => exact dumps_starts rendered readable
  | cons next items =>
      rw [dumpsItems, Option.bind_eq_some_iff] at rendered
      · obtain ⟨first, head, others⟩ := rendered
        rw [Option.map_eq_some_iff] at others
        obtain ⟨more, -, rfl⟩ := others
        obtain ⟨c, tail, rfl, starts⟩ := dumps_starts head readable
        exact ⟨c, tail ++ ',' :: more, rfl, starts⟩
      · simp

theorem quoted_eq_some {name : List Char} (quote : quoted key = some name) :
    ∃ letters, name = '"' :: letters ∧
      ∀ rest, scanString (letters ++ rest) = .ok (key, rest) := by
  cases key with
  | text value =>
      cases quote
      refine ⟨_, rfl, fun rest => ?_⟩
      rw [List.append_assoc]
      exact scanString_quoted value
  | lone value => cases quote

theorem dumpsMembers_starts (rendered : dumpsMembers ((key, value) :: pairs) = some text) :
    ∃ rest, text = '"' :: rest := by
  cases pairs with
  | nil =>
      rw [dumpsMembers, Option.bind_eq_some_iff] at rendered
      obtain ⟨name, quote, others⟩ := rendered
      obtain ⟨letters, rfl, -⟩ := quoted_eq_some quote
      rw [Option.map_eq_some_iff] at others
      obtain ⟨more, -, rfl⟩ := others
      exact ⟨letters ++ ':' :: more, rfl⟩
  | cons next pairs =>
      rw [dumpsMembers, Option.bind_eq_some_iff] at rendered
      · obtain ⟨name, quote, others⟩ := rendered
        obtain ⟨letters, rfl, -⟩ := quoted_eq_some quote
        rw [Option.bind_eq_some_iff] at others
        obtain ⟨inner, -, others⟩ := others
        rw [Option.map_eq_some_iff] at others
        obtain ⟨more, -, rfl⟩ := others
        exact ⟨letters ++ ':' :: (inner ++ ',' :: more), rfl⟩
      · simp

end Sequences

theorem isReadable_of_every {value : Value} (readable : value.every isReadable = true) :
    isReadable value = true := by
  cases value <;> simp_all [every]

mutual
theorem scanOnce_dumps : ∀ (value : Value) {text : List Char}, value.dumps = some text →
    value.every isReadable = true → ∀ {fuel : Nat} {rest : List Char}, text.length ≤ fuel →
    Ends rest → scanOnce fuel (text ++ rest) = .ok (value, rest)
  | .null, text, rendered, _, fuel, rest, enough, ends => by
      cases rendered
      cases fuel with
      | zero => exact absurd enough (by decide)
      | succ fuel => rfl
  | .bool true, text, rendered, _, fuel, rest, enough, ends => by
      cases rendered
      cases fuel with
      | zero => exact absurd enough (by decide)
      | succ fuel => rfl
  | .bool false, text, rendered, _, fuel, rest, enough, ends => by
      cases rendered
      cases fuel with
      | zero => exact absurd enough (by decide)
      | succ fuel => rfl
  | .int value, text, rendered, readable, fuel, rest, enough, ends => by
      obtain ⟨c, others, rfl, -⟩ := dumps_starts rendered readable
      rw [dumps] at rendered
      split_ifs at rendered with short
      cases fuel with
      | zero => simp at enough
      | succ fuel =>
          rw [← Option.some.inj rendered]
          exact scanOnce_int fuel short ends
  | .float _, _, _, readable, _, _, _, _ => by cases readable
  | .str (.text value), text, rendered, _, fuel, rest, enough, ends => by
      cases rendered
      cases fuel with
      | zero => simp at enough
      | succ fuel =>
          rw [List.cons_append, List.append_assoc, scanOnce.eq_2]
          have read := @scanString_quoted rest value
          rw [List.singleton_append, read]
          rfl
  | .str (.lone _), _, rendered, _, _, _, _, _ => by cases rendered
  | .list [], text, rendered, _, fuel, rest, enough, ends => by
      cases rendered
      cases fuel with
      | zero => simp at enough
      | succ fuel => rfl
  | .list (item :: items), text, rendered, readable, fuel, rest, enough, ends => by
      rw [dumps, Option.map_eq_some_iff] at rendered
      obtain ⟨inner, rendered, rfl⟩ := rendered
      cases fuel with
      | zero => simp at enough
      | succ fuel =>
          simp only [every, Bool.and_eq_true] at readable
          simp only [List.length_cons, List.length_append] at enough
          have read := @scanItems_dumps (item :: items) _ (List.cons_ne_nil _ _) rendered readable.2
            fuel rest (by omega)
          have first := isReadable_of_every (Bool.and_eq_true_iff.mp readable.2).1
          obtain ⟨c, others, rfl, visible, open'⟩ := dumpsItems_starts rendered first
          rw [List.cons_append, List.append_assoc, List.singleton_append, scanOnce.eq_3,
            List.cons_append, skip_cons visible]
          rw [List.cons_append] at read
          split
          · rename_i equal
            exact absurd (List.cons.inj equal).1 open'
          · rw [read]
            rfl
  | .dict [], text, rendered, _, fuel, rest, enough, ends => by
      cases rendered
      cases fuel with
      | zero => simp at enough
      | succ fuel => rfl
  | .dict ((key, value) :: members), text, rendered, readable, fuel, rest, enough, ends => by
      rw [dumps, Option.map_eq_some_iff] at rendered
      obtain ⟨inner, rendered, rfl⟩ := rendered
      cases fuel with
      | zero => simp at enough
      | succ fuel =>
          simp only [every, Bool.and_eq_true] at readable
          simp only [List.length_cons, List.length_append] at enough
          have read := @scanMembers_dumps ((key, value) :: members) _ (List.cons_ne_nil _ _)
            rendered readable.2 fuel rest (by omega)
          have distinct : (((key, value) :: members).map (·.1)).Nodup := of_decide_eq_true readable.1
          obtain ⟨others, rfl⟩ := dumpsMembers_starts rendered
          rw [List.cons_append, List.append_assoc, List.singleton_append, scanOnce.eq_4,
            List.cons_append, skip_cons rfl]
          rw [List.cons_append] at read
          split
          · rename_i equal
            exact absurd (List.cons.inj equal).1 (by decide)
          · rw [read]
            simp only [bind, Except.bind, dictOf_nodup distinct]

theorem scanItems_dumps : ∀ (items : List Value) {text : List Char}, items ≠ [] →
    dumpsItems items = some text → everyItem isReadable items = true →
    ∀ {fuel : Nat} {rest : List Char}, text.length < fuel →
    scanItems fuel (text ++ ']' :: rest) = .ok (items, rest)
  | [], _, nonempty, _, _, _, _, _ => absurd rfl nonempty
  | [item], text, _, rendered, readable, fuel, rest, enough => by
      cases fuel with
      | zero => exact absurd enough (Nat.not_lt_zero _)
      | succ fuel =>
          apply scanItems_last
          exact scanOnce_dumps item rendered (Bool.and_eq_true_iff.mp readable).1 (by omega)
            (.of_cons (by decide))
  | item :: next :: items, text, _, rendered, readable, fuel, rest, enough => by
      cases fuel with
      | zero => exact absurd enough (Nat.not_lt_zero _)
      | succ fuel =>
          rw [dumpsItems.eq_3 _ _ (by simp), Option.bind_eq_some_iff] at rendered
          obtain ⟨first, head, others⟩ := rendered
          rw [Option.map_eq_some_iff] at others
          obtain ⟨more, others, rfl⟩ := others
          obtain ⟨mine, theirs⟩ := Bool.and_eq_true_iff.mp readable
          simp only [List.length_cons, List.length_append] at enough
          have visible : skip (more ++ ']' :: rest) = more ++ ']' :: rest := by
            obtain ⟨c, tail, rfl, visible, -⟩ :=
              dumpsItems_starts others (isReadable_of_every (Bool.and_eq_true_iff.mp theirs).1)
            exact skip_cons visible
          rw [List.append_assoc, List.cons_append]
          apply scanItems_more _ visible
          · exact scanItems_dumps (next :: items) (List.cons_ne_nil _ _) others theirs (by omega)
          · exact scanOnce_dumps item head mine (by omega) (.of_cons (by decide))

theorem scanMembers_dumps : ∀ (members : Dict) {text : List Char}, members ≠ [] →
    dumpsMembers members = some text → everyMember isReadable members = true →
    ∀ {fuel : Nat} {rest : List Char}, text.length < fuel →
    scanMembers fuel (text ++ '\x7d' :: rest) = .ok (members, rest)
  | [], _, nonempty, _, _, _, _, _ => absurd rfl nonempty
  | [(key, value)], text, _, rendered, readable, fuel, rest, enough => by
      cases fuel with
      | zero => exact absurd enough (Nat.not_lt_zero _)
      | succ fuel =>
          rw [dumpsMembers, Option.bind_eq_some_iff] at rendered
          obtain ⟨name, quote, others⟩ := rendered
          obtain ⟨letters, rfl, read⟩ := quoted_eq_some quote
          rw [Option.map_eq_some_iff] at others
          obtain ⟨inner, head, rfl⟩ := others
          have mine := (Bool.and_eq_true_iff.mp readable).1
          simp only [List.length_cons, List.length_append] at enough
          have visible : skip (inner ++ '\x7d' :: rest) = inner ++ '\x7d' :: rest := by
            obtain ⟨c, tail, rfl, visible, -⟩ := dumps_starts head (isReadable_of_every mine)
            exact skip_cons visible
          simp only [List.append_assoc, List.cons_append]
          apply scanMembers_last (read _) visible
          exact scanOnce_dumps value head mine (by omega) (.of_cons (by decide))
  | (key, value) :: next :: members, text, _, rendered, readable, fuel, rest, enough => by
      cases fuel with
      | zero => exact absurd enough (Nat.not_lt_zero _)
      | succ fuel =>
          rw [dumpsMembers.eq_3 _ _ _ (by simp), Option.bind_eq_some_iff] at rendered
          obtain ⟨name, quote, others⟩ := rendered
          obtain ⟨letters, rfl, read⟩ := quoted_eq_some quote
          rw [Option.bind_eq_some_iff] at others
          obtain ⟨inner, head, others⟩ := others
          rw [Option.map_eq_some_iff] at others
          obtain ⟨more, others, rfl⟩ := others
          obtain ⟨mine, theirs⟩ := Bool.and_eq_true_iff.mp readable
          simp only [List.length_cons, List.length_append] at enough
          have visible : skip (inner ++ ',' :: (more ++ '\x7d' :: rest)) =
              inner ++ ',' :: (more ++ '\x7d' :: rest) := by
            obtain ⟨c, tail, rfl, visible, -⟩ := dumps_starts head (isReadable_of_every mine)
            exact skip_cons visible
          have next' : skip (more ++ '\x7d' :: rest) = more ++ '\x7d' :: rest := by
            obtain ⟨tail, rfl⟩ := dumpsMembers_starts others
            exact skip_cons rfl
          simp only [List.append_assoc, List.cons_append]
          apply scanMembers_more (read _) visible _ next'
          · exact scanMembers_dumps (next :: members) (List.cons_ne_nil _ _) others theirs (by omega)
          · exact scanOnce_dumps value head mine (by omega) (.of_cons (by decide))
end

theorem loads_dumps {value : Value} {text rest : List Char} (rendered : value.dumps = some text)
    (readable : value.every isReadable = true) (blank : skip rest = [])
    (ends : Ends rest) : loads (text ++ rest) = .ok value := by
  have starts : skip (text ++ rest) = text ++ rest := by
    obtain ⟨c, tail, rfl, visible, -⟩ := dumps_starts rendered (isReadable_of_every readable)
    exact skip_cons visible
  have enough : text.length ≤ (text ++ rest).length := by
    rw [List.length_append]
    omega
  rw [loads, starts, scanOnce_dumps value rendered readable enough ends]
  simp [bind, Except.bind, blank]

/-- `json.loads` of UTF-8. -/
def loadsUtf8 (bytes : List UInt8) : Except Refusal Value :=
  match decodeUtf8 bytes with
  | some text => loads text
  | none => .error .decode

/-- A value is read back from its line. -/
theorem loadsUtf8_line {value : Value} {text : List Char} (rendered : value.dumps = some text)
    (readable : value.every isReadable = true) :
    loadsUtf8 (utf8 (text ++ ['\n'])) = .ok value := by
  have ends : Ends ['\n'] := .of_cons (by decide)
  rw [loadsUtf8, decodeUtf8_utf8]
  exact loads_dumps rendered readable rfl ends

theorem dumps_injective {a b : Value} {text : List Char} (first : a.dumps = some text)
    (second : b.dumps = some text) (readable : a.every isReadable = true)
    (readable' : b.every isReadable = true) : a = b := by
  have nothing : Ends [] := by
    rintro c head
    cases head
  have one := loads_dumps first readable rfl nothing
  have two := loads_dumps second readable' rfl nothing
  exact Except.ok.inj (one.symm.trans two)

/-- What stands at this place of the value has a text. -/
def isRenderable : Value → Bool
  | .int value => hasDecimal value
  | .float repr => repr.isSome
  | .str value => isText value
  | value => hasTextKeys value

theorem quoted_isSome (key : PyStr) : (quoted key).isSome = isText key := by
  cases key <;> rfl

mutual
/-- A value has a text where everything in it has one. -/
theorem isSome_dumps : ∀ value : Value, value.dumps.isSome = value.every isRenderable
  | .null => rfl
  | .bool true => rfl
  | .bool false => rfl
  | .int value => by
      change (dumps (.int value)).isSome = hasDecimal value
      rw [dumps]
      cases short : hasDecimal value <;> rfl
  | .float repr => by
      change (repr.map String.toList).isSome = repr.isSome
      rw [Option.isSome_map]
  | .str value => quoted_isSome value
  | .list items => by
      rw [dumps, Option.isSome_map, isSome_dumpsItems items, every]
      rfl
  | .dict members => by
      rw [dumps, Option.isSome_map, isSome_dumpsMembers members, every]
      rfl

theorem isSome_dumpsItems : ∀ items : List Value,
    (dumpsItems items).isSome = everyItem isRenderable items
  | [] => rfl
  | [item] => by
      have head := isSome_dumps item
      rw [dumpsItems, head, everyItem, everyItem, Bool.and_true]
  | item :: next :: items => by
      have head := isSome_dumps item
      have tail := isSome_dumpsItems (next :: items)
      rw [dumpsItems.eq_3 _ _ (by simp), everyItem, ← head, ← tail]
      cases dumps item <;> simp

theorem isSome_dumpsMembers : ∀ members : Dict, (dumpsMembers members).isSome =
    (hasTextKeys (.dict members) && everyMember isRenderable members)
  | [] => rfl
  | [(key, value)] => by
      have head := isSome_dumps value
      rw [dumpsMembers, hasTextKeys, List.all_cons, List.all_nil, everyMember, everyMember,
        Bool.and_true, Bool.and_true, ← head, ← quoted_isSome key]
      cases quoted key <;> cases dumps value <;> rfl
  | (key, value) :: next :: members => by
      have head := isSome_dumps value
      have tail := isSome_dumpsMembers (next :: members)
      rw [hasTextKeys] at tail ⊢
      rw [dumpsMembers.eq_3 _ _ _ (by simp), everyMember, List.all_cons, ← head, ← quoted_isSome key]
      cases quoted key with
      | none => rfl
      | some name =>
          cases dumps value with
          | none => simp
          | some text => simpa using tail
end

/-- What UTF-8 encodes has a text unless an integer in it has too many digits. -/
theorem dumps_isSome (value : Value) (encodable : value.every isEncodable = true) :
    value.dumps.isSome = value.every hasDigits := by
  rw [isSome_dumps]
  apply every_congr _ encodable
  intro value place
  cases value with
  | float repr => cases place
  | str value => exact place
  | dict members => exact place
  | _ => rfl

end CsdFoundry.Encoding
