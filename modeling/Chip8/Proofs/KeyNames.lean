import Chip8.Proofs.Capitals
import Chip8.Proofs.Keymaps
import Chip8.Proofs.NumeralGrammar
import Chip8.Proofs.Reading

/-! Key names, from the configuration to the look-up. The keymap of a configuration is accepted as the
overrides of the standard one, and there a name stands for what the last entry of this name says, upper
and lower case being the same. A keymap with a value that is no key is refused with an error of the
configuration, unless its first bad check escapes. -/

namespace Chip8.Config

variable {entries named : List (Document × Document)} {m n : Keymap} {c : Config}

/-- The last entry of a name that is given in upper case. -/
def lastUnder (name : Text) (named : List (Document × Document)) : Option (Document × Document) :=
  (named.filter fun entry => entry.1.text?.map Text.upper = some name).getLast?

theorem lastUnder_cons {entry : Document × Document} {text : Text}
    (written : entry.1.text? = some text) (name : Text) :
    lastUnder name (entry :: named) =
      (lastUnder name named).or (if name = Text.upper text then some entry else none) := by
  unfold lastUnder
  by_cases same : Text.upper text = name
  · simp [written, same, List.getLast?_cons, Option.or_some]
  · simp [written, same, Ne.symm same]

theorem mem_of_lastUnder {name : Text} {entry : Document × Document}
    (last : lastUnder name named = some entry) : entry ∈ named :=
  (List.mem_filter.mp (List.mem_of_getLast? last)).1

/-- The value is an integer, or the text of one, and a key of the keypad. -/
def Fits (value : Document) : Prop :=
  ∃ key, value.integer? = some key ∧ IsKey key

theorem exists_of_bind {α β : Type} {read : Except ReadError α}
    {next : α → Except ReadError β} {b : β} (done : read >>= next = .ok b) :
    ∃ a, read = .ok a ∧ next a = .ok b := by
  cases read with
  | error e => cases done
  | ok a => exact ⟨a, rfl, done⟩

theorem readKeymap_cons {name value : Document}
    (read : readKeymap m ((name, value) :: named) = .ok n) :
    ∃ text key, name.text? = some text ∧ value.integer? = some key ∧ IsKey key ∧
      readKeymap (m.insert (Text.upper text) key) named = .ok n := by
  obtain ⟨key, number, read⟩ := exists_of_bind read
  obtain ⟨text, written, read⟩ := exists_of_bind read
  split at read
  · rename_i inside
    exact ⟨text, key, text?_of_textOf written, integer?_of_readInt number, inside, read⟩
  · cases read

theorem normal_of_readKeymap (normal : m.Normal) (read : readKeymap m named = .ok n) : n.Normal := by
  induction named generalizing m with
  | nil =>
    cases read
    exact normal
  | cons entry rest ih =>
    obtain ⟨text, key, _, _, inside, tail⟩ := readKeymap_cons read
    exact ih (normal.insert (Text.upper_upper text) inside) tail

theorem fits_of_readKeymap (read : readKeymap m named = .ok n) :
    ∀ entry ∈ named, Fits entry.2 := by
  induction named generalizing m with
  | nil => simp
  | cons entry rest ih =>
    obtain ⟨text, key, _, number, inside, tail⟩ := readKeymap_cons read
    exact List.forall_mem_cons.mpr ⟨⟨key, number, inside⟩, ih tail⟩

theorem get?_of_readKeymap (read : readKeymap m named = .ok n) (name : Text) :
    n.get? name =
      ((lastUnder name named).bind fun entry => entry.2.integer?).or (m.get? name) := by
  induction named generalizing m with
  | nil =>
    cases read
    rfl
  | cons entry rest ih =>
    obtain ⟨text, key, written, number, _, tail⟩ := readKeymap_cons read
    rw [ih tail, lastUnder_cons written, Keymap.get?_insert]
    cases last : lastUnder name rest with
    | none => by_cases same : name = Text.upper text <;> simp [same, number]
    | some later =>
      -- A later entry of the name has an integer too, so this one does not count.
      obtain ⟨other, found, _⟩ := fits_of_readKeymap tail later (mem_of_lastUnder last)
      simp [found]

/-- The keymap is built without an error, and of the entries of one name the last counts. -/
theorem build_of_readKeymap (read : readKeymap {} named = .ok m) :
    ∃ overlaid, Keymap.build m.entries = .ok overlaid ∧ ∀ s, s ≠ [] →
      overlaid.find? s = ((lastUnder (Text.upper s) named).bind fun entry => entry.2.integer?).or
        (Keymap.standard.get? (Text.upper s)) := by
  have normal := normal_of_readKeymap .empty read
  obtain ⟨overlaid, built, found⟩ := Keymap.override_of_normal normal .standard
  refine ⟨overlaid, built, ?_⟩
  intro s nonempty
  have filled : s.isEmpty = false := by simpa using nonempty
  have empty : Keymap.get? {} (Text.upper s) = none := rfl
  have own : m.entries.lookup (Text.upper s) = _ := get?_of_readKeymap read (Text.upper s)
  rw [Keymap.find?, filled, if_neg Bool.false_ne_true, found, own, empty, Option.or_none]

theorem find?_congr {s t : Text} (same : Text.upper s = Text.upper t) (m : Keymap) :
    m.find? s = m.find? t := by
  have empty : s.isEmpty = t.isEmpty := by
    rw [Bool.eq_iff_iff, List.isEmpty_iff, List.isEmpty_iff, ← Text.upper_eq_nil, same,
      Text.upper_eq_nil]
  rw [Keymap.find?, Keymap.find?, empty, same]

theorem find?_insert (entries : List (Document × Document)) (name other : Text) (value : Document) :
    Document.find? (Document.insert entries (.text name) value) (.text other) =
      if other = name then some value else Document.find? entries (.text other) := by
  unfold Document.find?
  induction entries with
  | nil =>
    by_cases same : other = name
    · simp [Document.insert, Document.sameKey, same]
    · simp [Document.insert, Document.sameKey, same, Ne.symm same]
  | cons entry rest ih =>
    by_cases there : entry.1 = .text name
    · by_cases same : other = name
      · simp [Document.insert, there, Document.sameKey, same]
      · simp [Document.insert, there, Document.sameKey, same, Ne.symm same]
    · have kept : entry.1.sameKey (.text name) = false := by
        rwa [Bool.eq_false_iff, ne_eq, Document.sameKey_text]
      rw [Document.insert, kept, if_neg Bool.false_ne_true, List.find?_cons, List.find?_cons]
      split
      · rename_i here
        have apart : other ≠ name := by
          rintro rfl
          rw [kept] at here
          cases here
        rw [if_neg apart]
      · exact ih

theorem unknownKeys_insert {name : String} (known : name ∈ settingNames)
    (entries : List (Document × Document)) (value : Document) :
    unknownKeys (Document.insert entries (.text name) value) = unknownKeys entries := by
  have listed : settingNames.any (fun other => (Document.text name).sameKey (.text other)) = true :=
    List.any_eq_true.mpr ⟨name, known, by simp [Document.sameKey]⟩
  unfold unknownKeys
  induction entries with
  | nil => simp [Document.insert, listed]
  | cons entry rest ih =>
    unfold Document.insert
    split
    · rfl
    · rw [List.map_cons, List.map_cons, List.filter_cons, List.filter_cons, ih]

/-- A document that sets the keymap anew. -/
def withKeymap (entries named : List (Document × Document)) : List (Document × Document) :=
  Document.insert entries (.text "keymap") (.mapping named)

theorem readSection_withKeymap (entries named : List (Document × Document)) :
    readSection (withKeymap entries named) "keymap" = .ok named := by
  simp [readSection, withKeymap, find?_insert]

theorem find?_withKeymap (entries named : List (Document × Document)) (other : String)
    (different : (other : Text) ≠ "keymap") :
    Document.find? (withKeymap entries named) (.text other) = Document.find? entries (.text other) := by
  rw [withKeymap, find?_insert, if_neg different]

theorem readHead_withKeymap {head : Config} (read : readHead entries = .ok head)
    (named : List (Document × Document)) : readHead (withKeymap entries named) =
      (readKeymap {} named).map fun m => { head with keymap := m } := by
  have display : readSection (withKeymap entries named) "display" = readSection entries "display" := by
    rw [readSection, readSection, find?_withKeymap entries named _ (by decide)]
  unfold readHead at read ⊢
  rw [find?_withKeymap entries named _ (by decide), display, readSection_withKeymap]
  obtain ⟨architecture, named, read⟩ := exists_of_bind read
  obtain ⟨part, shown, read⟩ := exists_of_bind read
  obtain ⟨settings, displayed, read⟩ := exists_of_bind read
  obtain ⟨_, _, read⟩ := exists_of_bind read
  obtain ⟨_, _, read⟩ := exists_of_bind read
  cases read
  simp only [named, shown, displayed, bind, Except.bind]
  cases readKeymap {} _ <;> rfl

theorem readTail_withKeymap {head : Config} (read : readTail entries head = .ok c)
    (named : List (Document × Document)) (m : Keymap) :
    readTail (withKeymap entries named) { head with keymap := m } = .ok { c with keymap := m } := by
  have rate (name : String) (different : (name : Text) ≠ "keymap") (default : Int) :
      readIntAt (withKeymap entries named) name default = readIntAt entries name default := by
    rw [readIntAt, readIntAt, find?_withKeymap entries named _ different]
  have seed : readSeed (withKeymap entries named) = readSeed entries := by
    rw [readSeed, readSeed, find?_withKeymap entries named _ (by decide)]
  obtain ⟨cpuHz, first, read⟩ := exists_of_bind read
  obtain ⟨timerHz, second, read⟩ := exists_of_bind read
  obtain ⟨drawn, third, read⟩ := exists_of_bind read
  cases read
  simp only [readTail, rate "cpu_hz" (by decide), rate "timer_hz" (by decide), seed,
    find?_withKeymap entries named "rom" (by decide), first, second, third, bind,
    Except.bind]
  rfl

theorem result_withKeymap (accepted : (readEntries entries).result = .ok c)
    (named : List (Document × Document)) :
    (readEntries (withKeymap entries named)).result =
      (readKeymap {} named).map fun m => { c with keymap := m } := by
  rw [result_readEntries] at accepted ⊢
  obtain ⟨head, started, accepted⟩ := exists_of_bind accepted
  obtain ⟨notices, noted, accepted⟩ := exists_of_bind accepted
  have names : unknownNotices (withKeymap entries named) = .ok notices := by
    rw [unknownNotices, withKeymap, unknownKeys_insert (by decide)]
    exact noted
  rw [readHead_withKeymap started]
  cases readKeymap {} named with
  | error e => rfl
  | ok m =>
    have ended := readTail_withKeymap accepted named m
    simp only [Except.map, names, ended, bind, Except.bind]

theorem parts_of_readHead {head : Config} (read : readHead entries = .ok head) :
    (∃ text, head.architecture = Text.upper text) ∧
      readKeymap {} (entriesAt entries "keymap") = .ok head.keymap := by
  obtain ⟨architecture, _, read⟩ := exists_of_bind read
  obtain ⟨_, _, read⟩ := exists_of_bind read
  obtain ⟨_, _, read⟩ := exists_of_bind read
  obtain ⟨part, found, read⟩ := exists_of_bind read
  obtain ⟨m, keymap, read⟩ := exists_of_bind read
  cases read
  exact ⟨⟨architecture, rfl⟩, eq_of_readSection found ▸ keymap⟩

theorem parts_of_readTail {head : Config} (read : readTail entries head = .ok c) :
    c.architecture = head.architecture ∧ c.keymap = head.keymap := by
  obtain ⟨_, _, read⟩ := exists_of_bind read
  obtain ⟨_, _, read⟩ := exists_of_bind read
  obtain ⟨_, _, read⟩ := exists_of_bind read
  cases read
  exact ⟨rfl, rfl⟩

theorem parts_of_accepted (accepted : (readEntries entries).result = .ok c) :
    (∃ text, c.architecture = Text.upper text) ∧
      readKeymap {} (entriesAt entries "keymap") = .ok c.keymap := by
  rw [result_readEntries] at accepted
  obtain ⟨head, started, accepted⟩ := exists_of_bind accepted
  obtain ⟨_, _, ended⟩ := exists_of_bind accepted
  obtain ⟨architecture, keymap⟩ := parts_of_readTail ended
  rw [architecture, keymap]
  exact parts_of_readHead started

theorem keymapChecks_sound_iff : Check.first (keymapChecks named) = .sound ↔
    ∀ entry ∈ named, entry.1.text?.isSome ∧ Fits entry.2 := by
  induction named with
  | nil => simp [keymapChecks, Check.first]
  | cons entry rest ih =>
    obtain ⟨name, value⟩ := entry
    rw [List.forall_mem_cons, ← ih]
    simp only [Check.first_eq_sound_iff, keymapChecks, List.forall_mem_cons,
      List.forall_mem_append, List.forall_mem_map, Option.mem_toList, Check.integer_sound_iff,
      Check.text_sound_iff, Check.key_sound_iff]
    cases number : value.integer? <;> simp [Fits, number, and_assoc, and_left_comm]

theorem exists_of_refused (refused : Check.first (keymapChecks named) = .refused) :
    ∃ entry ∈ named, ¬ Fits entry.2 := by
  obtain ⟨check, member, verdict⟩ := Check.exists_of_first refused (by decide)
  obtain ⟨entry, inside, what⟩ := mem_keymapChecks named member
  refine ⟨entry, inside, ?_⟩
  rintro ⟨key, number, fits⟩
  obtain rfl | rfl | ⟨other, same, rfl⟩ := what
  · simp [Check.verdict, number] at verdict
  · simp only [Check.verdict] at verdict
    split at verdict <;> cases verdict
  · obtain rfl : key = other := Option.some.inj (number.symm.trans same)
    simp [Check.verdict, fits] at verdict

theorem verdict_withKeymap (accepted : (readEntries entries).result = .ok c)
    (named : List (Document × Document)) :
    Verdict.of (ofDocument (.mapping (withKeymap entries named))).result =
      Check.first (keymapChecks named) := by
  have result : (ofDocument (.mapping (withKeymap entries named))).result = _ :=
    result_withKeymap accepted named
  rw [result]
  exact (readKeymap_follows named {}).map _

/-- A keymap is accepted if all its names can be written and all its values are keys. It is refused
with an error of the configuration if a value is none, unless its first bad check escapes. -/
theorem accepted_and_refused (accepted : (readEntries entries).result = .ok c)
    (named : List (Document × Document)) :
    ((∃ read, (ofDocument (.mapping (withKeymap entries named))).result = .ok read) ↔
      ∀ entry ∈ named, entry.1.text?.isSome ∧ Fits entry.2) ∧
    (Refused (.mapping (withKeymap entries named)) ↔
      (∃ entry ∈ named, ¬ Fits entry.2) ∧ Check.first (keymapChecks named) ≠ .escapes) := by
  have verdict := verdict_withKeymap accepted named
  rw [← Verdict.of_eq_sound_iff, refused_iff_verdict, verdict, keymapChecks_sound_iff]
  refine ⟨Iff.rfl, ?_, ?_⟩
  · intro refused
    exact ⟨exists_of_refused refused, by simp [refused]⟩
  · rintro ⟨⟨entry, member, unfit⟩, harmless⟩
    have unsound : Check.first (keymapChecks named) ≠ .sound := by
      rw [ne_eq, keymapChecks_sound_iff]
      exact fun all => unfit (all entry member).2
    cases first : Check.first (keymapChecks named) with
    | sound => exact absurd first unsound
    | refused => rfl
    | escapes => exact absurd first harmless

/-- The keymap of a configuration is built without an error, and a name stands in it for the last
entry of this name, or else for what it stands for in the standard one. -/
theorem keymap_lookups (accepted : (ofDocument (.mapping entries)).result = .ok c) :
    (∃ m, Keymap.build c.keymap.entries = .ok m ∧
      (∀ s, s ≠ [] → m.find? s =
        ((lastUnder (Text.upper s) (entriesAt entries "keymap")).bind fun entry =>
          entry.2.integer?).or (Keymap.standard.get? (Text.upper s))) ∧
      ∀ s t, Text.upper s = Text.upper t → m.find? s = m.find? t) ∧
    (∀ named,
      ((∃ read, (ofDocument (.mapping (withKeymap entries named))).result = .ok read) ↔
        ∀ entry ∈ named, entry.1.text?.isSome ∧ Fits entry.2) ∧
      (Refused (.mapping (withKeymap entries named)) ↔
        (∃ entry ∈ named, ¬ Fits entry.2) ∧ Check.first (keymapChecks named) ≠ .escapes) ∧
      (Legible named → (Refused (.mapping (withKeymap entries named)) ↔
        ∃ entry ∈ named, ¬ Fits entry.2))) ∧
    ∀ overrides,
      (∃ e, Keymap.build overrides = .error e) ↔ ∃ entry ∈ overrides, ¬ IsKey entry.2 := by
  have accepted : (readEntries entries).result = .ok c := accepted
  obtain ⟨m, built, found⟩ := build_of_readKeymap (parts_of_accepted accepted).2
  refine ⟨⟨m, built, found, fun s t same => find?_congr same m⟩, ?_, ?_⟩
  · intro named
    obtain ⟨whole, refused⟩ := accepted_and_refused accepted named
    refine ⟨whole, refused, ?_⟩
    intro legible
    rw [refused, and_iff_left (Check.first_ne_escapes legible.keymapChecks_harmless)]
  · exact fun overrides => Keymap.override_error_iff .standard

/-- A document with one name in two spellings and one for which the standard keymap has a key. -/
def spellings : List (Document × Document) :=
  [(.text "keymap", .mapping
    [(.text "ß", .int 1), (.text "a", .text "0x3"), (.text "ss", .text "7")])]

/-- Both spellings stand for what the last one says. -/
theorem keymap_lookups_spellings :
    ∃ c overlaid, (ofDocument (.mapping spellings)).result = .ok c ∧
      Keymap.build c.keymap.entries = .ok overlaid ∧ overlaid.find? "sS" = some 7 ∧
      overlaid.find? "ß" = overlaid.find? "SS" ∧ overlaid.find? "A" = some 3 ∧
      overlaid.find? "q" = some 4 := by
  have sound : Verdict.of (ofDocument (.mapping spellings)).result = .sound := by decide +kernel
  obtain ⟨c, accepted⟩ := Verdict.of_eq_sound_iff.mp sound
  obtain ⟨⟨overlaid, built, found, alike⟩, _⟩ := keymap_lookups accepted
  refine ⟨c, overlaid, accepted, built, ?_, alike _ _ (by decide +kernel), ?_, ?_⟩
  · exact (found "sS" (by decide)).trans (by decide +kernel)
  · exact (found "A" (by decide)).trans (by decide +kernel)
  · exact (found "q" (by decide)).trans (by decide +kernel)

/-- A power of sixteen in hexadecimal digits. -/
def longKey (zeros : Nat) : Text :=
  .ofChars ('0' :: 'x' :: '1' :: List.replicate zeros '0')

theorem integer?_longKey (zeros : Nat) :
    Text.Numeral.integer? (longKey zeros) = some (1 * Nat.pow 16 zeros : Nat) := by
  have one : Text.Numeral.Spells 16 ['1'] 1 := .digit ⟨by decide, .inl rfl⟩
  exact Text.Numeral.integer?_of_plain
    (.hexadecimal (.inl rfl) (one.append_zeros (by decide) zeros))

/-- A number of more than 4300 digits is no key, but it is not refused with an error of the
configuration: the sentence of the error cannot be written. -/
theorem long_key_escapes :
    let named : List (Document × Document) := [(.text "A", .text (longKey 3572))]
    ¬ (Refused (.mapping [(.text "keymap", .mapping named)]) ↔ ∃ entry ∈ named, ¬ Fits entry.2) := by
  obtain ⟨key, number, outside, large⟩ : ∃ key : Int,
      (Document.text (longKey 3572)).integer? = some key ∧ ¬ IsKey key ∧ intText? key = none :=
    ⟨_, integer?_longKey 3572, by decide +kernel, by decide +kernel⟩
  intro named claim
  have name : (Document.text "A").text?.isSome := rfl
  have escapes : Check.first (keymapChecks named) = .escapes := by
    simp [named, keymapChecks, Check.first, Check.verdict, number, name, outside, large]
  have unfit : ∃ entry ∈ named, ¬ Fits entry.2 := by
    refine ⟨_, List.mem_singleton_self _, ?_⟩
    rintro ⟨other, same, inside⟩
    obtain rfl : key = other := Option.some.inj (number.symm.trans same)
    exact outside inside
  have accepted : (readEntries []).result = .ok {} := rfl
  obtain ⟨_, refused⟩ := accepted_and_refused accepted named
  exact (refused.mp (claim.mpr unfit)).2 escapes

end Chip8.Config
