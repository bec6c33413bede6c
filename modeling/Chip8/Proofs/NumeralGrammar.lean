import Mathlib.Data.Nat.Digits.Defs
import Chip8.Proofs.Numerals

/-! The grammar of numerals, and that reading accepts exactly what it gives. Digits may be those of
any script, a single underscore may stand between any two of them, and every digit counts by its
place. A decimal numeral may have a sign, and white space around it; a hexadecimal one has its mark
first, then at most one underscore, and white space only at its end. -/

namespace Chip8.Text

/-- The code points of white space. -/
def spaces : List Nat :=
  [0x09, 0x0A, 0x0B, 0x0C, 0x0D, 0x20, 0x85, 0xA0, 0x1680, 0x2000, 0x2001, 0x2002, 0x2003, 0x2004,
   0x2005, 0x2006, 0x2007, 0x2008, 0x2009, 0x200A, 0x2028, 0x2029, 0x202F, 0x205F, 0x3000]

/-- Nothing but white space. -/
def AllBlank (cs : List Char) : Prop :=
  ∀ c ∈ cs, c.toNat ∈ spaces

instance (cs : List Char) : Decidable (AllBlank cs) :=
  List.decidableBAll _ cs

theorem isBlank_iff {c : Char} : isBlank c = true ↔ c.toNat ∈ spaces := by
  simp only [isBlank, spaces, List.mem_cons, List.not_mem_nil, or_false, Bool.or_eq_true,
    Bool.and_eq_true, decide_eq_true_eq]
  omega

theorem AllBlank.isBlank {cs : List Char} (blank : AllBlank cs) : ∀ c ∈ cs, isBlank c = true :=
  fun c member => isBlank_iff.mpr (blank c member)

theorem AllBlank.not_mem {cs : List Char} (blank : AllBlank cs) {c : Char}
    (plain : c.toNat ∉ spaces) : c ∉ cs :=
  fun member => plain (blank c member)

theorem dropWhile_isBlank {cs : List Char} (plain : ∀ c ∈ cs, isBlank c = false) :
    cs.dropWhile isBlank = cs := by
  cases cs with
  | nil => rfl
  | cons c rest => simp [plain c List.mem_cons_self]

theorem trimEnd_of_plain {cs : List Char} (plain : ∀ c ∈ cs, isBlank c = false) :
    trimEnd cs = cs := by
  rw [trimEnd, dropWhile_isBlank (by simpa using plain), List.reverse_reverse]

theorem trimEnd_append {after : List Char} (cs : List Char) (blank : AllBlank after) :
    trimEnd (cs ++ after) = trimEnd cs := by
  have reversed : ∀ c ∈ after.reverse, isBlank c = true := by simpa using blank.isBlank
  rw [trimEnd, List.reverse_append, List.dropWhile_append_of_pos reversed, trimEnd]

/-- Trimming cuts off white space. -/
theorem exists_trimEnd (cs : List Char) : ∃ after, AllBlank after ∧ cs = trimEnd cs ++ after := by
  refine ⟨(cs.reverse.takeWhile isBlank).reverse, ?_, ?_⟩
  · intro c member
    exact isBlank_iff.mp (List.all_eq_true.mp List.all_takeWhile c (List.mem_reverse.mp member))
  · rw [trimEnd, ← List.reverse_append, List.takeWhile_append_dropWhile, List.reverse_reverse]

theorem trim_of_spaced {before body after : List Char} (blankBefore : AllBlank before)
    (plain : ∀ c ∈ body, isBlank c = false) (nonempty : body ≠ []) (blankAfter : AllBlank after) :
    trim (before ++ body ++ after) = body := by
  have kept : (body ++ after).dropWhile isBlank = body ++ after := by
    cases body with
    | nil => exact absurd rfl nonempty
    | cons c rest => simp [plain c List.mem_cons_self]
  rw [trim, List.append_assoc, List.dropWhile_append_of_pos blankBefore.isBlank, kept,
    trimEnd_append body blankAfter, trimEnd_of_plain plain]

theorem exists_trim (cs : List Char) :
    ∃ before after, AllBlank before ∧ AllBlank after ∧ cs = before ++ trim cs ++ after := by
  obtain ⟨after, blank, same⟩ := exists_trimEnd (cs.dropWhile isBlank)
  refine ⟨cs.takeWhile isBlank, after, ?_, blank, ?_⟩
  · intro c member
    exact isBlank_iff.mp (List.all_eq_true.mp List.all_takeWhile c member)
  · rw [List.append_assoc, trim, ← same, List.takeWhile_append_dropWhile]

namespace Numeral

/-- The character is a decimal digit of a script. -/
def IsDecimal (c : Char) (d : Nat) : Prop :=
  d < 10 ∧ ∃ start ∈ digitZeros, c.toNat = start + d

instance (c : Char) (d : Nat) : Decidable (IsDecimal c d) :=
  inferInstanceAs (Decidable (d < 10 ∧ ∃ start ∈ digitZeros, c.toNat = start + d))

/-- The character is a decimal digit of a script, or a digit of base sixteen in ASCII. -/
def IsHexadecimal (c : Char) (d : Nat) : Prop :=
  IsDecimal c d ∨ IsDigit 16 c d

/-- The characters show the digits, with at most one underscore between any two. -/
inductive Grouped (shows : Char → Nat → Prop) : List Char → List Nat → Prop
  | single {c : Char} {d : Nat} (shown : shows c d) : Grouped shows [c] [d]
  | adjacent {c : Char} {d : Nat} {cs : List Char} {ds : List Nat} (shown : shows c d)
      (rest : Grouped shows cs ds) : Grouped shows (c :: cs) (d :: ds)
  | separated {c : Char} {d : Nat} {cs : List Char} {ds : List Nat} (shown : shows c d)
      (rest : Grouped shows cs ds) : Grouped shows (c :: '_' :: cs) (d :: ds)

/-- What stands behind the mark of a hexadecimal numeral: an underscore or none, then digits, as many
as it takes, and white space. -/
inductive Hexadecimal : List Char → Nat → Prop
  | digits {lead cs after : List Char} {ds : List Nat} (underscore : lead = [] ∨ lead = ['_'])
      (grouped : Grouped IsHexadecimal cs ds) (blank : AllBlank after) :
      Hexadecimal (lead ++ cs ++ after) (Nat.ofDigits 16 ds.reverse)

/-- The signs of decimal numerals, each with the factor it stands for. -/
def signs : List (List Char × Int) :=
  [([], 1), (['+'], 1), (['-'], -1)]

/-- A sign or none and at most 4300 digits, with white space around them. -/
inductive Decimal : List Char → Int → Prop
  | digits {before sign cs after : List Char} {factor : Int} {ds : List Nat}
      (blankBefore : AllBlank before) (signed : (sign, factor) ∈ signs)
      (grouped : Grouped IsDecimal cs ds) (short : ds.length ≤ 4300) (blankAfter : AllBlank after) :
      Decimal (before ++ (sign ++ cs) ++ after) (factor * (Nat.ofDigits 10 ds.reverse : Nat))

/-- The characters that follow the zero in the mark of a hexadecimal numeral. -/
def IsMark (c : Char) : Prop :=
  c = 'x' ∨ c = 'X'

def Marked (cs : List Char) : Prop :=
  ∃ mark rest, IsMark mark ∧ cs = '0' :: mark :: rest

/-- The characters are a numeral of the integer. -/
inductive Denotes : List Char → Int → Prop
  | hexadecimal {mark : Char} {rest : List Char} {n : Nat} (marks : IsMark mark)
      (behind : Hexadecimal rest n) : Denotes ('0' :: mark :: rest) n
  | decimal {cs : List Char} {n : Int} (unmarked : ¬ Marked cs) (numeral : Decimal cs n) :
      Denotes cs n

/-- The digits of no two scripts share a code point. -/
theorem scripts_apart : ∀ start ∈ digitZeros, ∀ other ∈ digitZeros,
    start = other ∨ start + 10 ≤ other ∨ other + 10 ≤ start := by
  decide +kernel

theorem decimalDigit?_eq_some_iff {c : Char} {d : Nat} :
    decimalDigit? c = some d ↔ IsDecimal c d := by
  constructor
  · intro read
    obtain ⟨start, first, rfl⟩ := Option.map_eq_some_iff.mp read
    have inside := List.find?_some first
    simp only [Bool.and_eq_true, decide_eq_true_eq] at inside
    exact ⟨by omega, start, List.mem_of_find?_eq_some first, by omega⟩
  · rintro ⟨small, start, member, place⟩
    cases first : digitZeros.find? fun start => start ≤ c.toNat && c.toNat < start + 10 with
    | none =>
      have outside := List.find?_eq_none.mp first start member
      simp only [Bool.and_eq_true, decide_eq_true_eq] at outside
      omega
    | some other =>
      have inside := List.find?_some first
      simp only [Bool.and_eq_true, decide_eq_true_eq] at inside
      have same := scripts_apart start member other (List.mem_of_find?_eq_some first)
      rw [decimalDigit?, first, Option.map_some, Option.some_inj]
      omega

theorem ofNat_eq_of_toNat {c : Char} {n : Nat} (place : c.toNat = n) : c = Char.ofNat n := by
  rw [← place, Char.ofNat_toNat]

theorem isDigit_of_letter {c : Char} {d : Nat} (read : hexDigit? c = some d)
    (letter : decimalDigit? c = none) : IsDigit 16 c d := by
  unfold hexDigit? at read
  rw [letter] at read
  dsimp only at read
  split at read
  · rename_i small
    have low : 97 ≤ c.toNat := small.1
    have high : c.toNat ≤ 102 := small.2
    have value : c.toNat - 97 + 10 = d := Option.some.inj read
    refine ⟨by omega, .inl ?_⟩
    rw [Hex.lowerDigit, if_neg (by omega)]
    exact ofNat_eq_of_toNat (by omega)
  · split at read
    · rename_i _ capital
      have low : 65 ≤ c.toNat := capital.1
      have high : c.toNat ≤ 70 := capital.2
      have value : c.toNat - 65 + 10 = d := Option.some.inj read
      refine ⟨by omega, .inr ?_⟩
      rw [Hex.upperDigit, if_neg (by omega)]
      exact ofNat_eq_of_toNat (by omega)
    · contradiction

theorem hexDigit?_eq_some_iff {c : Char} {d : Nat} :
    hexDigit? c = some d ↔ IsHexadecimal c d := by
  constructor
  · intro read
    cases decimal : decimalDigit? c with
    | some e =>
      rw [hexDigit?, decimal] at read
      exact .inl (decimalDigit?_eq_some_iff.mp (decimal.trans read))
    | none => exact .inr (isDigit_of_letter read decimal)
  · rintro (decimal | ⟨small, rfl | rfl⟩)
    · rw [hexDigit?, decimalDigit?_eq_some_iff.mpr decimal]
    · revert d
      decide
    · revert d
      decide

/-- White space is no digit of a script. -/
theorem spaces_apart : ∀ start ∈ digitZeros, ∀ space ∈ spaces,
    space < start ∨ start + 10 ≤ space := by
  decide +kernel

theorem IsHexadecimal.not_space {c : Char} {d : Nat} (shown : IsHexadecimal c d) :
    c.toNat ∉ spaces := by
  obtain ⟨small, start, member, place⟩ | ⟨small, rfl | rfl⟩ := shown
  · intro space
    have apart := spaces_apart start member c.toNat space
    omega
  · revert d
    decide
  · revert d
    decide

theorem IsHexadecimal.ne_underscore {c : Char} {d : Nat} (shown : IsHexadecimal c d) :
    c ≠ '_' := by
  rintro rfl
  have read := hexDigit?_eq_some_iff.mpr shown
  have none : hexDigit? '_' = none := by decide
  rw [none] at read
  contradiction

theorem IsDecimal.ne {c other : Char} {d : Nat} (shown : IsDecimal c d)
    (none : decimalDigit? other = none) : c ≠ other := by
  rintro rfl
  rw [decimalDigit?_eq_some_iff.mpr shown] at none
  contradiction

namespace Grouped

variable {shows : Char → Nat → Prop} {cs : List Char} {ds : List Nat}

/-- What holds of the underscore and of every digit holds of the characters. -/
theorem forall_mem {P : Char → Prop} (grouped : Grouped shows cs ds) (underscore : P '_')
    (digits : ∀ {c d}, shows c d → P c) : ∀ c ∈ cs, P c := by
  induction grouped with
  | single shown => simpa using digits shown
  | adjacent shown rest ih => exact List.forall_mem_cons.mpr ⟨digits shown, ih⟩
  | separated shown rest ih =>
    exact List.forall_mem_cons.mpr ⟨digits shown, List.forall_mem_cons.mpr ⟨underscore, ih⟩⟩

theorem exists_cons (grouped : Grouped shows cs ds) :
    ∃ c d rest, shows c d ∧ cs = c :: rest := by
  cases grouped with
  | single shown => exact ⟨_, _, _, shown, rfl⟩
  | adjacent shown rest => exact ⟨_, _, _, shown, rfl⟩
  | separated shown rest => exact ⟨_, _, _, shown, rfl⟩

theorem concat {c : Char} {d : Nat} (grouped : Grouped shows cs ds) (shown : shows c d) :
    Grouped shows (cs ++ [c]) (ds ++ [d]) := by
  induction grouped with
  | single first => exact .adjacent first (.single shown)
  | adjacent first rest ih => exact .adjacent first ih
  | separated first rest ih => exact .separated first ih

theorem exists_concat (grouped : Grouped shows cs ds) :
    ∃ rest c d, shows c d ∧ cs = rest ++ [c] := by
  induction grouped with
  | single shown => exact ⟨[], _, _, shown, rfl⟩
  | adjacent shown rest ih =>
    obtain ⟨cs, c, d, last, rfl⟩ := ih
    exact ⟨_ :: cs, c, d, last, rfl⟩
  | separated shown rest ih =>
    obtain ⟨cs, c, d, last, rfl⟩ := ih
    exact ⟨_ :: '_' :: cs, c, d, last, rfl⟩

end Grouped

section Digits

variable {digit? : Char → Option Nat} {shows : Char → Nat → Prop}
  (reads : ∀ {c d}, digit? c = some d ↔ shows c d)
include reads

theorem grouped_of_digits? {cs : List Char} {ds : List Nat} (read : digits? digit? cs = some ds) :
    Grouped shows cs ds := by
  induction cs using digits?.induct generalizing ds with
  | case1 => contradiction
  | case2 c =>
    obtain ⟨d, shown, rfl⟩ := Option.map_eq_some_iff.mp read
    exact .single (reads.mp shown)
  | case3 c rest ih =>
    simp only [digits?, Option.bind_eq_bind, Option.bind_eq_some_iff, Option.some_inj] at read
    obtain ⟨d, shown, tail, later, rfl⟩ := read
    exact .separated (reads.mp shown) (ih later)
  | case4 c rest nonempty other ih =>
    rw [digits?] at read
    · simp only [Option.bind_eq_bind, Option.bind_eq_some_iff, Option.some_inj] at read
      obtain ⟨d, shown, tail, later, rfl⟩ := read
      exact .adjacent (reads.mp shown) (ih later)
    · assumption
    · assumption

theorem Grouped.digits? {cs : List Char} {ds : List Nat} (grouped : Grouped shows cs ds)
    (underscore : ∀ {c d}, shows c d → c ≠ '_') : digits? digit? cs = some ds := by
  induction grouped with
  | single shown => simp [Numeral.digits?, reads.mpr shown]
  | separated shown rest ih => simp [Numeral.digits?, reads.mpr shown, ih]
  | adjacent shown rest ih =>
    obtain ⟨next, d, more, first, rfl⟩ := rest.exists_cons
    have other := underscore first
    simp [Numeral.digits?, reads.mpr shown, ih, other]

theorem digits?_eq_some_iff (underscore : ∀ {c d}, shows c d → c ≠ '_') {cs : List Char}
    {ds : List Nat} : digits? digit? cs = some ds ↔ Grouped shows cs ds :=
  ⟨grouped_of_digits? reads, fun grouped => grouped.digits? reads underscore⟩

end Digits

/-- The value that is taken digit by digit is that of the places. -/
theorem value_eq (base : Nat) (ds : List Nat) : value base ds = Nat.ofDigits base ds.reverse := by
  rw [Nat.ofDigits_eq_foldr, List.foldr_reverse, value]
  congr
  funext n d
  rw [Nat.cast_id, Nat.mul_comm, Nat.add_comm]

theorem IsHexadecimal.plain {c : Char} {d : Nat} (shown : IsHexadecimal c d) :
    isBlank c = false := by
  rw [Bool.eq_false_iff, ne_eq, isBlank_iff]
  exact shown.not_space

theorem natural?_eq_some_iff {cs : List Char} {n : Nat} :
    natural? cs = some n ↔
      ∃ ds, Grouped IsDecimal cs ds ∧ ds.length ≤ 4300 ∧ n = Nat.ofDigits 10 ds.reverse := by
  have reads {ds : List Nat} : digits? decimalDigit? cs = some ds ↔ Grouped IsDecimal cs ds :=
    digits?_eq_some_iff decimalDigit?_eq_some_iff fun shown =>
      IsHexadecimal.ne_underscore (.inl shown)
  simp only [natural?, Option.bind_eq_bind, Option.bind_eq_some_iff, reads]
  constructor
  · rintro ⟨ds, grouped, limited⟩
    split at limited
    · rename_i short
      cases limited
      exact ⟨ds, grouped, short, value_eq 10 ds⟩
    · contradiction
  · rintro ⟨ds, grouped, short, rfl⟩
    exact ⟨ds, grouped, by rw [maxDecimalDigits, if_pos short, value_eq]⟩

theorem digits?_hexDigit?_iff {cs : List Char} {ds : List Nat} :
    digits? hexDigit? cs = some ds ↔ Grouped IsHexadecimal cs ds :=
  digits?_eq_some_iff hexDigit?_eq_some_iff IsHexadecimal.ne_underscore

theorem hexadecimal?_eq_some_iff {cs : List Char} {n : Nat} :
    hexadecimal? cs = some n ↔ Hexadecimal cs n := by
  simp only [hexadecimal?, Option.map_eq_some_iff, digits?_hexDigit?_iff]
  constructor
  · rintro ⟨ds, grouped, rfl⟩
    obtain ⟨after, blank, same⟩ := exists_trimEnd cs
    rw [same, value_eq]
    split at grouped
    · rename_i rest first
      rw [first]
      exact .digits (.inr rfl) grouped blank
    · exact .digits (.inl rfl) grouped blank
  · rintro ⟨underscore, grouped, blank⟩
    rename_i lead cs after ds
    refine ⟨ds, ?_, value_eq 16 ds⟩
    have mark : isBlank '_' = false := by decide
    have plain : ∀ c ∈ lead ++ cs, isBlank c = false := by
      refine List.forall_mem_append.mpr ⟨?_, grouped.forall_mem mark IsHexadecimal.plain⟩
      obtain rfl | rfl := underscore <;> simp [mark]
    rw [trimEnd_append _ blank, trimEnd_of_plain plain]
    obtain rfl | rfl := underscore
    · obtain ⟨c, d, rest, shown, rfl⟩ := grouped.exists_cons
      split
      · rename_i first
        exact absurd (List.cons.inj first).1 shown.ne_underscore
      · exact grouped
    · exact grouped

/-- A sign and digits behind it, with white space around them. -/
theorem decimal_of_natural? {before sign rest after : List Char} {factor : Int} {n : Nat}
    (blankBefore : AllBlank before) (signed : (sign, factor) ∈ signs)
    (read : natural? rest = some n) (blankAfter : AllBlank after) :
    Decimal (before ++ (sign ++ rest) ++ after) (factor * n) := by
  obtain ⟨ds, grouped, short, rfl⟩ := natural?_eq_some_iff.mp read
  exact .digits blankBefore signed grouped short blankAfter

theorem decimal_of_decimal? {cs : List Char} {n : Int} (read : decimal? cs = some n) :
    Decimal cs n := by
  obtain ⟨before, after, blankBefore, blankAfter, same⟩ := exists_trim cs
  rw [same]
  unfold decimal? at read
  split at read <;> rename_i rest body <;>
    obtain ⟨n, natural, rfl⟩ := Option.map_eq_some_iff.mp read
  · have signed : (['+'], 1) ∈ signs := by decide
    have numeral := decimal_of_natural? blankBefore signed natural blankAfter
    rw [body]
    rwa [one_mul] at numeral
  · have signed : (['-'], -1) ∈ signs := by decide
    have numeral := decimal_of_natural? blankBefore signed natural blankAfter
    rw [body]
    rwa [neg_one_mul] at numeral
  · have signed : ([], 1) ∈ signs := by decide
    have numeral := decimal_of_natural? blankBefore signed natural blankAfter
    rwa [one_mul] at numeral

theorem mem_signs {sign : List Char} {factor : Int} :
    (sign, factor) ∈ signs ↔
      sign = [] ∧ factor = 1 ∨ sign = ['+'] ∧ factor = 1 ∨ sign = ['-'] ∧ factor = -1 := by
  simp [signs]

theorem isBlank_of_signed {sign : List Char} {factor : Int} (signed : (sign, factor) ∈ signs) :
    ∀ c ∈ sign, isBlank c = false := by
  have plus : isBlank '+' = false := by decide
  have minus : isBlank '-' = false := by decide
  obtain ⟨rfl, -⟩ | ⟨rfl, -⟩ | ⟨rfl, -⟩ := mem_signs.mp signed <;> simp [plus, minus]

theorem Decimal.decimal? {cs : List Char} {n : Int} (numeral : Decimal cs n) :
    decimal? cs = some n := by
  obtain ⟨blankBefore, signed, grouped, short, blankAfter⟩ := numeral
  rename_i before sign cs after factor ds
  have natural : natural? cs = some (Nat.ofDigits 10 ds.reverse) :=
    natural?_eq_some_iff.mpr ⟨ds, grouped, short, rfl⟩
  have plain : ∀ c ∈ sign ++ cs, isBlank c = false :=
    List.forall_mem_append.mpr ⟨isBlank_of_signed signed,
      grouped.forall_mem (by decide) fun shown => IsHexadecimal.plain (.inl shown)⟩
  obtain ⟨c, d, rest, shown, cons⟩ := grouped.exists_cons
  rw [Numeral.decimal?, trim_of_spaced blankBefore plain (by simp [cons]) blankAfter]
  obtain ⟨rfl, rfl⟩ | ⟨rfl, rfl⟩ | ⟨rfl, rfl⟩ := mem_signs.mp signed
  · rw [List.nil_append]
    split
    -- The first character is a digit and no sign.
    · exact absurd (List.cons.inj cons).1.symm (shown.ne (by decide))
    · exact absurd (List.cons.inj cons).1.symm (shown.ne (by decide))
    · simp [natural]
  · simp [natural]
  · simp [natural]

theorem decimal?_eq_some_iff {cs : List Char} {n : Int} : decimal? cs = some n ↔ Decimal cs n :=
  ⟨decimal_of_decimal?, Decimal.decimal?⟩

theorem numeral?_of_mark {mark : Char} (marks : IsMark mark) (rest : List Char) :
    numeral? ('0' :: mark :: rest) = (hexadecimal? rest).map (Int.ofNat ·) := by
  obtain rfl | rfl := marks <;> rfl

theorem numeral?_of_not_marked {cs : List Char} (unmarked : ¬ Marked cs) :
    numeral? cs = decimal? cs := by
  unfold numeral?
  split
  · exact absurd ⟨_, _, .inl rfl, rfl⟩ unmarked
  · exact absurd ⟨_, _, .inr rfl, rfl⟩ unmarked
  · rfl

theorem numeral?_eq_some_iff {cs : List Char} {n : Int} :
    numeral? cs = some n ↔ Denotes cs n := by
  by_cases marked : Marked cs
  · obtain ⟨mark, rest, marks, rfl⟩ := marked
    rw [numeral?_of_mark marks, Option.map_eq_some_iff]
    constructor
    · rintro ⟨n, read, rfl⟩
      exact .hexadecimal marks (hexadecimal?_eq_some_iff.mp read)
    · intro denotes
      cases denotes with
      | hexadecimal _ behind => exact ⟨_, hexadecimal?_eq_some_iff.mpr behind, rfl⟩
      | decimal unmarked _ => exact absurd ⟨_, _, marks, rfl⟩ unmarked
  · rw [numeral?_of_not_marked marked, decimal?_eq_some_iff]
    constructor
    · exact .decimal marked
    · intro denotes
      cases denotes with
      | hexadecimal marks _ => exact absurd ⟨_, _, marks, rfl⟩ marked
      | decimal _ numeral => exact numeral

theorem not_mem_of_signed {sign : List Char} {factor : Int} (signed : (sign, factor) ∈ signs)
    {c : Char} (plain : c ≠ '+' ∧ c ≠ '-') : c ∉ sign := by
  obtain ⟨rfl, -⟩ | ⟨rfl, -⟩ | ⟨rfl, -⟩ := mem_signs.mp signed <;> simp [plain]

theorem Decimal.not_mem_mark {cs : List Char} {n : Int} (numeral : Decimal cs n) {mark : Char}
    (marks : IsMark mark) : mark ∉ cs := by
  obtain ⟨blankBefore, signed, grouped, _, blankAfter⟩ := numeral
  have apart : mark.toNat ∉ spaces ∧ (mark ≠ '+' ∧ mark ≠ '-') ∧ '_' ≠ mark ∧
      decimalDigit? mark = none := by
    obtain rfl | rfl := marks <;> decide
  obtain ⟨plain, unsigned, other, letter⟩ := apart
  have digits := grouped.forall_mem other fun shown => shown.ne letter
  simp only [List.mem_append, not_or]
  exact ⟨⟨blankBefore.not_mem plain, not_mem_of_signed signed unsigned,
    fun member => digits mark member rfl⟩, blankAfter.not_mem plain⟩

theorem Decimal.denotes {cs : List Char} {n : Int} (numeral : Decimal cs n) : Denotes cs n := by
  refine .decimal ?_ numeral
  rintro ⟨mark, rest, marks, rfl⟩
  exact numeral.not_mem_mark marks (by simp)

theorem isDecimal_of_isDigit {c : Char} {d : Nat} (shown : IsDigit 10 c d) : IsDecimal c d := by
  obtain ⟨small, rfl | rfl⟩ := shown
  · revert d
    decide
  · revert d
    decide

theorem Spells.exists_grouped {base n : Nat} {cs : List Char} {shows : Char → Nat → Prop}
    (spells : Spells base cs n) (digits : ∀ {c d}, IsDigit base c d → shows c d) :
    ∃ ds, Grouped shows cs ds ∧ ds.length = cs.length ∧ Nat.ofDigits base ds.reverse = n := by
  simp only [← value_eq]
  induction spells with
  | @digit c d shown => exact ⟨[d], .single (digits shown), rfl, by simp [value]⟩
  | @append cs n c d before shown ih =>
    obtain ⟨ds, grouped, length, rfl⟩ := ih
    exact ⟨ds ++ [d], grouped.concat (digits shown), by simp [length], by simp [value]⟩

theorem denotes_of_spells {sign cs : List Char} {factor : Int} {n : Nat}
    (signed : (sign, factor) ∈ signs) (spells : Spells 10 cs n)
    (short : cs.length ≤ maxDecimalDigits) : Denotes (sign ++ cs) (factor * n) := by
  obtain ⟨ds, grouped, length, rfl⟩ := spells.exists_grouped isDecimal_of_isDigit
  have numeral : Decimal ([] ++ (sign ++ cs) ++ []) (factor * (Nat.ofDigits 10 ds.reverse : Nat)) :=
    .digits nofun signed grouped (length.trans_le short) nofun
  rw [List.nil_append, List.append_nil] at numeral
  exact numeral.denotes

/-- Plain numerals are numerals. -/
theorem Plain.denotes {cs : List Char} {n : Int} (plain : Plain cs n) : Denotes cs n := by
  cases plain with
  | unsigned spells short =>
    have signed : ([], 1) ∈ signs := by decide
    simpa using denotes_of_spells signed spells short
  | positive spells short =>
    have signed : (['+'], 1) ∈ signs := by decide
    simpa using denotes_of_spells signed spells short
  | negative spells short =>
    have signed : (['-'], -1) ∈ signs := by decide
    simpa using denotes_of_spells signed spells short
  | @hexadecimal cs n mark marked spells =>
    have ascii : ∀ {c d}, IsDigit 16 c d → IsHexadecimal c d := .inr
    obtain ⟨ds, grouped, _, rfl⟩ := spells.exists_grouped ascii
    have behind : Hexadecimal ([] ++ cs ++ []) (Nat.ofDigits 16 ds.reverse) :=
      .digits (.inl rfl) grouped nofun
    rw [List.nil_append, List.append_nil] at behind
    exact .hexadecimal marked behind

end Numeral

theorem chars?_eq_some_iff {s : Text} {cs : List Char} : s.chars? = some cs ↔ s = ofChars cs := by
  constructor
  · intro read
    induction s generalizing cs with
    | nil =>
      cases read
      rfl
    | cons point rest ih =>
      cases point with
      | char c =>
        obtain ⟨tail, later, rfl⟩ := Option.map_eq_some_iff.mp read
        rw [ih later]
        rfl
      | surrogate n => contradiction
  · rintro rfl
    exact chars?_ofChars cs

/-- A text is read as an integer exactly if its characters are a numeral of it. -/
theorem Numeral.integer?_eq_some_iff {s : Text} {n : Int} :
    integer? s = some n ↔ ∃ cs, s = ofChars cs ∧ Denotes cs n := by
  simp only [integer?, Option.bind_eq_some_iff, chars?_eq_some_iff, numeral?_eq_some_iff]

/-- A plain numeral is read as its number. -/
theorem Numeral.integer?_of_plain {cs : List Char} {n : Int} (plain : Plain cs n) :
    integer? (ofChars cs) = some n :=
  integer?_eq_some_iff.mpr ⟨cs, rfl, plain.denotes⟩

end Chip8.Text
