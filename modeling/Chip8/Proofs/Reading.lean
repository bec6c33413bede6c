import Chip8.CommandLine.Run

/-! Reading a configuration as a list of checks. Each check of a document is sound, is refused with a
configuration error, or escapes with an error of another kind; the first one that is not sound
decides what becomes of the document. What escapes is a section that is no mapping, unknown names
that have no order, and an integer that is too long to be written. -/

namespace Chip8

/-- Whether it is reported as an error of the configuration, in a sentence of its own. -/
def ReadError.isConfiguration : ReadError → Bool
  | invalid error => error.message?.isSome
  | notSection _ | unorderedNames | tooLong => false

inductive Verdict where
  | sound | refused | escapes
deriving DecidableEq, Repr

variable {α β : Type}

def Verdict.of : Except ReadError α → Verdict
  | .ok _ => sound
  | .error e => if e.isConfiguration then refused else escapes

theorem Verdict.of_eq_sound_iff {read : Except ReadError α} :
    Verdict.of read = .sound ↔ ∃ a, read = .ok a := by
  cases read with
  | ok a => simp [Verdict.of]
  | error e => cases reported : e.isConfiguration <;> simp [Verdict.of, reported]

namespace Document

def integer? : Document → Option Int
  | int n => some n
  | text s => Text.Numeral.integer? s
  | _ => none

def entries? : Document → Option (List (Document × Document))
  | mapping entries => some entries
  | _ => none

theorem isSome_nestedEntries? (entries : List (Document × Document)) :
    (nestedEntries? entries).isSome ↔
      ∀ entry ∈ entries, (nested? entry.1).isSome ∧ (nested? entry.2).isSome := by
  induction entries with
  | nil => simp [nestedEntries?]
  | cons entry rest ih =>
    rw [List.forall_mem_cons, ← ih, nestedEntries?]
    cases nested? entry.1 <;> cases nested? entry.2 <;> cases nestedEntries? rest <;> simp

theorem sameKey_text {key : Document} {name : Text} :
    key.sameKey (.text name) = true ↔ key = .text name := by
  cases key <;> simp [Document.sameKey, Document.number?]

end Document

/-- What reading asks of a part of a document. -/
inductive Check where
  /-- The value can be written. -/
  | text (value : Document)
  /-- The value is an integer or the text of one. -/
  | integer (value : Document)
  /-- The value is a mapping or counts as nothing. -/
  | mapping (value : Document)
  /-- The number is that of a key. -/
  | key (number : Int)
  /-- Any two of the names can be compared. -/
  | order (names : List Document)

namespace Check

def verdict : Check → Verdict
  | text value => if value.text?.isSome then .sound else .escapes
  | integer value =>
    if value.integer?.isSome then .sound else if value.text?.isSome then .refused else .escapes
  | mapping value => if value.entries?.isSome || value.isEmpty then .sound else .escapes
  | key number =>
    if IsKey number then .sound else if (intText? number).isSome then .refused else .escapes
  | order names => if names.Pairwise (Config.comparable · ·) then .sound else .escapes

/-- The verdict of the first check that is not sound. -/
def first : List Check → Verdict
  | [] => .sound
  | check :: rest => if check.verdict = .sound then first rest else check.verdict

theorem first_append (checks more : List Check) :
    first (checks ++ more) = if first checks = .sound then first more else first checks := by
  induction checks with
  | nil => rfl
  | cons check rest ih => by_cases sound : check.verdict = .sound <;> simp [first, sound, ih]

theorem first_singleton (check : Check) : first [check] = check.verdict := by
  by_cases sound : check.verdict = .sound <;> simp [first, sound]

theorem first_eq_sound_iff {checks : List Check} :
    first checks = .sound ↔ ∀ check ∈ checks, check.verdict = .sound := by
  induction checks with
  | nil => simp [first]
  | cons check rest ih =>
    rw [List.forall_mem_cons, ← ih]
    by_cases sound : check.verdict = .sound <;> simp [first, sound]

theorem integer_sound_iff {value : Document} :
    (integer value).verdict = .sound ↔ value.integer?.isSome := by
  by_cases number : value.integer?.isSome <;> by_cases written : value.text?.isSome <;>
    simp [verdict, number, written]

theorem text_sound_iff {value : Document} : (text value).verdict = .sound ↔ value.text?.isSome := by
  by_cases written : value.text?.isSome <;> simp [verdict, written]

theorem key_sound_iff {number : Int} : (key number).verdict = .sound ↔ IsKey number := by
  by_cases inside : IsKey number <;> by_cases written : (intText? number).isSome <;>
    simp [verdict, inside, written]

theorem exists_of_first {checks : List Check} {verdict : Verdict}
    (first : Check.first checks = verdict) (unsound : verdict ≠ .sound) :
    ∃ check ∈ checks, check.verdict = verdict := by
  induction checks with
  | nil => exact absurd first.symm unsound
  | cons check rest ih =>
    by_cases sound : check.verdict = .sound
    · rw [Check.first, if_pos sound] at first
      obtain ⟨other, member, same⟩ := ih first
      exact ⟨other, List.mem_cons_of_mem check member, same⟩
    · rw [Check.first, if_neg sound] at first
      exact ⟨check, List.mem_cons_self, first⟩

theorem first_ne_escapes {checks : List Check}
    (harmless : ∀ check ∈ checks, check.verdict ≠ .escapes) : first checks ≠ .escapes := by
  induction checks with
  | nil => simp [first]
  | cons check rest ih =>
    obtain ⟨here, later⟩ := List.forall_mem_cons.mp harmless
    by_cases sound : check.verdict = .sound
    · simp [first, sound, ih later]
    · simp [first, sound, here]

theorem text_harmless {value : Document} (written : value.text?.isSome) :
    (text value).verdict ≠ .escapes := by
  simp [verdict, written]

theorem integer_harmless {value : Document} (written : value.text?.isSome) :
    (integer value).verdict ≠ .escapes := by
  by_cases number : value.integer?.isSome <;> simp [verdict, written, number]

theorem mapping_harmless {value : Document} (sound : (mapping value).verdict = .sound) :
    (mapping value).verdict ≠ .escapes := by
  simp [sound]

theorem key_harmless {number : Int} (written : (intText? number).isSome) :
    (key number).verdict ≠ .escapes := by
  by_cases inside : IsKey number <;> simp [verdict, written, inside]

end Check

namespace Config

/-- Reading comes out as the first check that is not sound says. -/
def Follows (read : Except ReadError α) (checks : List Check) : Prop :=
  Verdict.of read = Check.first checks

namespace Follows

variable {read : Except ReadError α} {next : α → Except ReadError β} {checks more : List Check}

theorem bind (follows : Follows read checks)
    (later : ∀ a, read = .ok a → Follows (next a) more) :
    Follows (read >>= next) (checks ++ more) := by
  unfold Follows at follows later ⊢
  rw [Check.first_append, ← follows]
  cases read with
  | ok a => exact later a rfl
  | error e =>
    have unsound : Verdict.of (.error e : Except ReadError α) ≠ .sound := by
      unfold Verdict.of
      dsimp only
      split <;> decide
    rw [if_neg unsound]
    rfl

theorem map (follows : Follows read checks) (f : α → β) : Follows (read.map f) checks := by
  cases read <;> exact follows

theorem bind_ok (follows : Follows read checks) (f : α → β) :
    Follows (read >>= fun a => .ok (f a)) checks := by
  cases read <;> exact follows

end Follows

theorem textOf_follows (value : Document) : Follows (textOf value) [.text value] := by
  rw [Follows, Check.first_singleton, textOf]
  cases written : value.text? <;>
    simp [Check.verdict, written, Verdict.of, ReadError.isConfiguration]

theorem text?_of_textOf {value : Document} {text : Text} (written : textOf value = .ok text) :
    value.text? = some text := by
  unfold textOf at written
  split at written <;> cases written
  assumption

theorem notInteger_follows {value : Document} (other : value.integer? = none) :
    Follows (notInteger value) [.integer value] := by
  rw [Follows, Check.first_singleton, notInteger]
  cases written : value.text? <;>
    simp [Check.verdict, other, written, Verdict.of, ReadError.isConfiguration,
      ConfigError.message?]

theorem readInt_eq (value : Document) :
    readInt value = match value.integer? with
      | some n => .ok n
      | none => notInteger value := by
  cases value <;> rfl

theorem readInt_follows (value : Document) : Follows (readInt value) [.integer value] := by
  rw [readInt_eq]
  cases found : value.integer? with
  | some n => simp [Follows, Check.first_singleton, Check.verdict, found, Verdict.of]
  | none => exact notInteger_follows found

theorem integer?_of_readInt {value : Document} {n : Int} (read : readInt value = .ok n) :
    value.integer? = some n := by
  rw [readInt_eq] at read
  split at read
  · cases read
    assumption
  · unfold notInteger at read
    split at read <;> contradiction

/-- The value under a name, if there is one. -/
def found (entries : List (Document × Document)) (name : String) : List Document :=
  (Document.find? entries (.text name)).toList

/-- The entries of a section that is a mapping. -/
def entriesAt (entries : List (Document × Document)) (name : String) :
    List (Document × Document) :=
  ((Document.find? entries (.text name)).bind Document.entries?).getD []

variable (entries : List (Document × Document)) (name : String)

theorem readIntAt_follows (default : Int) :
    Follows (readIntAt entries name default) ((found entries name).map .integer) := by
  unfold readIntAt found
  cases Document.find? entries (.text name) with
  | none => rfl
  | some value => exact readInt_follows value

theorem readSection_eq {value : Document}
    (named : Document.find? entries (.text name) = some value) : readSection entries name =
      if value.entries?.isSome || value.isEmpty then .ok (value.entries?.getD [])
      else .error (.notSection name) := by
  unfold readSection
  rw [named]
  cases value <;> rfl

theorem readSection_follows :
    Follows (readSection entries name) ((found entries name).map .mapping) := by
  unfold found
  cases named : Document.find? entries (.text name) with
  | none => simp [readSection, named, Follows, Verdict.of, Check.first]
  | some value =>
    rw [readSection_eq entries name named, Option.toList_some, List.map_singleton, Follows,
      Check.first_singleton, Check.verdict]
    split <;> rfl

theorem eq_of_readSection {entries part : List (Document × Document)} {name : String}
    (read : readSection entries name = .ok part) : part = entriesAt entries name := by
  unfold entriesAt
  cases named : Document.find? entries (.text name) with
  | none =>
    simp [readSection, named] at read
    simp [read]
  | some value =>
    rw [readSection_eq entries name named] at read
    split at read
    · cases read
      rfl
    · contradiction

theorem readDisplay_follows :
    Follows (readDisplay entries) ((found entries "scale").map .integer) :=
  (readIntAt_follows entries "scale" _).bind_ok _

/-- The checks of the entries of a keymap. -/
def keymapChecks : List (Document × Document) → List Check
  | [] => []
  | (name, value) :: rest =>
    .integer value :: .text name :: (value.integer?.toList.map .key ++ keymapChecks rest)

theorem readKeymap_follows (m : Keymap) : Follows (readKeymap m entries) (keymapChecks entries) := by
  induction entries generalizing m with
  | nil => rfl
  | cons entry rest ih =>
    obtain ⟨name, value⟩ := entry
    refine (readInt_follows value).bind fun key read => (textOf_follows name).bind fun text _ => ?_
    rw [integer?_of_readInt read]
    by_cases inside : IsKey key
    · rw [if_pos inside]
      simp [Follows, Check.first, Check.verdict, inside]
      exact ih _
    · rw [if_neg inside]
      cases written : intText? key <;>
        simp [Follows, Check.first, Check.verdict, inside, written, Verdict.of,
          ReadError.isConfiguration, ConfigError.message?]

def headChecks : List Check :=
  (found entries "architecture").map .text ++
    ((found entries "display").map .mapping ++
      ((found (entriesAt entries "display") "scale").map .integer ++
        ((found entries "keymap").map .mapping ++ keymapChecks (entriesAt entries "keymap"))))

def seedChecks : List Check :=
  match Document.find? entries (.text "seed") with
  | none | some .null => []
  | some value => [.integer value]

def tailChecks : List Check :=
  (found entries "cpu_hz").map .integer ++
    ((found entries "timer_hz").map .integer ++ seedChecks entries)

/-- The checks of a configuration, in the order of reading. -/
def checks : List Check :=
  headChecks entries ++ (.order (unknownKeys entries) :: tailChecks entries)

theorem architecture_follows (default : Text) :
    Follows (textOf ((Document.find? entries (.text name)).getD (.text default)))
      ((found entries name).map .text) := by
  unfold found
  cases Document.find? entries (.text name) with
  | none => rfl
  | some value => exact textOf_follows value

theorem readHead_follows : Follows (readHead entries) (headChecks entries) := by
  -- What a section gives to the next part of the reading is its entries.
  refine (architecture_follows entries _ _).bind fun architecture _ =>
    (readSection_follows entries _).bind fun shown display =>
    .bind ?_ fun settings _ =>
    (readSection_follows entries _).bind fun named keymap => ?_
  · rw [eq_of_readSection display]
    exact readDisplay_follows _
  · rw [eq_of_readSection keymap]
    exact (readKeymap_follows _ _).bind_ok _

theorem comparable_of_both {a b c : Document} (first : comparable a b = true)
    (second : comparable a c = true) : comparable b c = true := by
  cases a <;> cases b <;> cases c <;> simp_all [comparable, Document.number?]

/-- Comparing the first name with all others is enough. -/
theorem pairwise_comparable_iff (key : Document) (rest : List Document) :
    (key :: rest).Pairwise (comparable · ·) ↔ ∀ other ∈ rest, comparable key other = true := by
  induction rest generalizing key with
  | nil => simp
  | cons next rest ih =>
    rw [List.pairwise_cons, ih next]
    constructor
    · rintro ⟨all, _⟩
      exact all
    · intro all
      refine ⟨all, ?_⟩
      intro other member
      exact comparable_of_both (all next List.mem_cons_self)
        (all other (List.mem_cons_of_mem next member))

theorem unknownNotices_follows :
    Follows (unknownNotices entries) [.order (unknownKeys entries)] := by
  rw [Follows, Check.first_singleton]
  unfold unknownNotices
  cases unknownKeys entries with
  | nil => rfl
  | cons key rest =>
    simp only [Check.verdict, pairwise_comparable_iff, List.all_eq_true]
    split <;> rfl

theorem readSeed_follows : Follows (readSeed entries) (seedChecks entries) := by
  unfold readSeed seedChecks
  cases Document.find? entries (.text "seed") with
  | none => rfl
  | some value =>
    cases value with
    | null => rfl
    | _ => exact (readInt_follows _).map _

theorem readTail_follows (c : Config) : Follows (readTail entries c) (tailChecks entries) :=
  (readIntAt_follows entries "cpu_hz" _).bind fun _ _ =>
    (readIntAt_follows entries "timer_hz" _).bind fun _ _ => (readSeed_follows entries).bind_ok _

theorem result_readEntries : (readEntries entries).result = (do
    let head ← readHead entries
    let _ ← unknownNotices entries
    readTail entries head) := by
  unfold readEntries
  cases readHead entries with
  | error e => rfl
  | ok head => cases unknownNotices entries <;> rfl

theorem readEntries_follows : Follows (readEntries entries).result (checks entries) := by
  rw [result_readEntries]
  exact (readHead_follows entries).bind fun head _ =>
    (unknownNotices_follows entries).bind fun _ _ => readTail_follows entries head

/-- A configuration, or an error of the configuration with its sentence. -/
def Answers (d : Document) : Prop :=
  (∃ c, (ofDocument d).result = .ok c) ∨
    ∃ error sentence, (ofDocument d).result = .error (.invalid error) ∧
      error.message? = some sentence

/-- An error of the configuration, with its sentence. -/
def Refused (d : Document) : Prop :=
  ∃ error sentence, (ofDocument d).result = .error (.invalid error) ∧
    error.message? = some sentence

theorem refused_iff_verdict (d : Document) :
    Refused d ↔ Verdict.of (ofDocument d).result = .refused := by
  unfold Refused
  cases (ofDocument d).result with
  | ok c => simp [Verdict.of]
  | error e =>
    cases e with
    | invalid error =>
      cases said : error.message? <;> simp [Verdict.of, ReadError.isConfiguration, said]
    | notSection _ | unorderedNames | tooLong => simp [Verdict.of, ReadError.isConfiguration]

theorem answers_iff_verdict (d : Document) :
    Answers d ↔ Verdict.of (ofDocument d).result ≠ .escapes := by
  have parts : Answers d ↔ (∃ c, (ofDocument d).result = .ok c) ∨ Refused d := Iff.rfl
  rw [parts, ← Verdict.of_eq_sound_iff, refused_iff_verdict]
  cases Verdict.of (ofDocument d).result <;> simp

/-- Every key and every value can be written. -/
def Written (entries : List (Document × Document)) : Prop :=
  ∀ entry ∈ entries, entry.1.text?.isSome ∧ entry.2.text?.isSome

theorem isSome_text? (value : Document) : value.text?.isSome = value.nested?.isSome := by
  cases value <;> simp [Document.text?, Document.nested?]

theorem written_of_text? (written : (Document.mapping entries).text?.isSome) :
    Written entries := by
  rw [isSome_text?, Document.nested?, Option.isSome_map, Document.isSome_nestedEntries?] at written
  simpa only [Written, isSome_text?] using written

namespace Written

variable {entries} {name : String} {value : Document}

theorem find? (written : Written entries)
    (named : Document.find? entries (.text name) = some value) : value.text?.isSome := by
  obtain ⟨entry, found, rfl⟩ := Option.map_eq_some_iff.mp named
  exact (written entry (List.mem_of_find?_eq_some found)).2

theorem found (written : Written entries) (member : value ∈ found entries name) :
    value.text?.isSome :=
  written.find? (Option.mem_toList.mp member)

theorem entriesAt (written : Written entries) (name : String) :
    Written (entriesAt entries name) := by
  unfold Config.entriesAt
  cases named : Document.find? entries (.text name) with
  | none => simp [Written]
  | some value =>
    have text := written.find? named
    cases value with
    | mapping part => exact written_of_text? part text
    | _ => simp [Written, Document.entries?]

end Written

/-- A document whose sections are mappings or count as nothing, whose unknown names have an order,
and whose integers can be written. -/
structure Regular (entries : List (Document × Document)) : Prop where
  display : ∀ value ∈ found entries "display", (Check.mapping value).verdict = .sound
  keymap : ∀ value ∈ found entries "keymap", (Check.mapping value).verdict = .sound
  names : (unknownKeys entries).Pairwise (comparable · ·)
  written : (Document.mapping entries).text?.isSome
  keys : ∀ entry ∈ entriesAt entries "keymap", ∀ key, entry.2.integer? = some key →
    (intText? key).isSome

theorem mem_keymapChecks {check : Check} (member : check ∈ keymapChecks entries) :
    ∃ entry ∈ entries, check = .integer entry.2 ∨ check = .text entry.1 ∨
      ∃ key, entry.2.integer? = some key ∧ check = .key key := by
  induction entries with
  | nil => simp [keymapChecks] at member
  | cons entry rest ih =>
    simp only [keymapChecks, List.mem_cons, List.mem_append, List.mem_map, Option.mem_toList]
      at member
    obtain rfl | rfl | ⟨key, number, rfl⟩ | later := member
    · exact ⟨entry, List.mem_cons_self, .inl rfl⟩
    · exact ⟨entry, List.mem_cons_self, .inr (.inl rfl)⟩
    · exact ⟨entry, List.mem_cons_self, .inr (.inr ⟨key, number, rfl⟩)⟩
    · obtain ⟨found, inside, what⟩ := ih later
      exact ⟨found, List.mem_cons_of_mem entry inside, what⟩

/-- Every name can be written, and so can every value and every integer. -/
def Legible (named : List (Document × Document)) : Prop :=
  ∀ entry ∈ named, entry.1.text?.isSome ∧ entry.2.text?.isSome ∧
    ∀ key, entry.2.integer? = some key → (intText? key).isSome

theorem Legible.keymapChecks_harmless {named : List (Document × Document)}
    (legible : Legible named) : ∀ check ∈ keymapChecks named, check.verdict ≠ .escapes := by
  intro check member
  obtain ⟨entry, inside, rfl | rfl | ⟨key, number, rfl⟩⟩ := mem_keymapChecks named member
  · exact Check.integer_harmless (legible entry inside).2.1
  · exact Check.text_harmless (legible entry inside).1
  · exact Check.key_harmless ((legible entry inside).2.2 key number)

namespace Regular

variable {entries} (regular : Regular entries)
include regular

theorem writes : Written entries :=
  written_of_text? entries regular.written

theorem keymapChecks_harmless :
    ∀ check ∈ keymapChecks (entriesAt entries "keymap"), check.verdict ≠ .escapes := by
  apply Legible.keymapChecks_harmless
  intro entry inside
  have written := regular.writes.entriesAt "keymap" entry inside
  exact ⟨written.1, written.2, regular.keys entry inside⟩

theorem headChecks_harmless : ∀ check ∈ headChecks entries, check.verdict ≠ .escapes := by
  simp only [headChecks, List.forall_mem_append, List.forall_mem_map]
  have shown := regular.writes.entriesAt "display"
  refine ⟨?_, ?_, ?_, ?_, regular.keymapChecks_harmless⟩ <;> intro value member
  · exact Check.text_harmless (regular.writes.found member)
  · exact Check.mapping_harmless (regular.display value member)
  · exact Check.integer_harmless (shown.found member)
  · exact Check.mapping_harmless (regular.keymap value member)

theorem seedChecks_harmless : ∀ check ∈ seedChecks entries, check.verdict ≠ .escapes := by
  unfold seedChecks
  split
  · simp
  · simp
  · rename_i value _ named
    simpa using Check.integer_harmless (regular.writes.find? named)

theorem tailChecks_harmless : ∀ check ∈ tailChecks entries, check.verdict ≠ .escapes := by
  simp only [tailChecks, List.forall_mem_append, List.forall_mem_map]
  refine ⟨?_, ?_, regular.seedChecks_harmless⟩ <;> intro value member <;>
    exact Check.integer_harmless (regular.writes.found member)

theorem checks_harmless : ∀ check ∈ checks entries, check.verdict ≠ .escapes := by
  refine List.forall_mem_append.mpr ⟨regular.headChecks_harmless,
    List.forall_mem_cons.mpr ⟨?_, regular.tailChecks_harmless⟩⟩
  simp [Check.verdict, regular.names]

end Regular

end Config

theorem CommandLine.exit_of_read (e : ReadError) (notices : List Notice) (level : Level) :
    ((⟨notices, .error (.read e)⟩ : Result Run).ending level).exit = .ok 2 ↔
      e.isConfiguration = true := by
  cases e with
  | invalid error =>
    cases said : error.message? <;>
      simp [Result.ending, Failure.reason?, ReadError.isConfiguration, said]
  | notSection _ | unorderedNames | tooLong =>
    simp [Result.ending, Failure.reason?, ReadError.isConfiguration]

/-- A document is answered with a configuration or with an error of the configuration exactly if the
first of its checks that is not sound does not escape, and so is every regular one. An error is an
error of the configuration exactly if it ends the program with the exit code two. -/
theorem Config.answers_iff_checks (d : Document) :
    (Answers d ↔ ∀ entries, d = .mapping entries → Check.first (checks entries) ≠ .escapes) ∧
    ((∀ entries, d = .mapping entries → Regular entries) → Answers d) ∧
    ∀ e, (ofDocument d).result = .error e → ∀ notices level,
      (((⟨notices, .error (.read e)⟩ : CommandLine.Result Run).ending level).exit = .ok 2 ↔
        Answers d) := by
  have exact : Answers d ↔ ∀ entries, d = .mapping entries →
      Check.first (checks entries) ≠ .escapes := by
    rw [answers_iff_verdict]
    cases d with
    | mapping entries =>
      have follows : Verdict.of (ofDocument (.mapping entries)).result = _ :=
        readEntries_follows entries
      simp [follows]
    | _ => simp [ofDocument, Verdict.of, ReadError.isConfiguration, ConfigError.message?]
  refine ⟨exact, ?_, ?_⟩
  · intro regular
    apply exact.mpr
    intro entries root
    exact Check.first_ne_escapes (regular entries root).checks_harmless
  · intro e failed notices level
    rw [CommandLine.exit_of_read, answers_iff_verdict, failed]
    cases reported : e.isConfiguration <;> simp [Verdict.of, reported]

/-- A list in the place of the display settings gives an error that is none of the configuration. -/
theorem Config.list_as_section_escapes :
    ¬ Answers (.mapping [(.text "display", .list [.int 1])]) := by
  have read : (ofDocument (.mapping [(.text "display", .list [.int 1])])).result
      = .error (.notSection "display") := rfl
  rw [answers_iff_verdict, read]
  simp [Verdict.of, ReadError.isConfiguration]

/-- A rate that is no number is answered, and it ends the program with the exit code two. -/
theorem Config.answers_iff_checks_rate :
    ∃ d e, d = .mapping [(.text "cpu_hz", .text "fast")] ∧ (ofDocument d).result = .error e ∧
      Answers d ∧
      ((⟨[], .error (.read e)⟩ : CommandLine.Result Run).ending .info).exit = .ok 2 := by
  let entries : List (Document × Document) := [(.text "cpu_hz", .text "fast")]
  have read : (ofDocument (.mapping entries)).result
      = .error (.invalid (.notInteger "fast")) := rfl
  have display : found entries "display" = [] := rfl
  have keymap : found entries "keymap" = [] := rfl
  have unknown : unknownKeys entries = [] := rfl
  have keys : entriesAt entries "keymap" = [] := rfl
  have regular : Regular entries :=
    ⟨by simp [display], by simp [keymap], by simp [unknown], rfl, by simp [keys]⟩
  obtain ⟨_, answers, exit⟩ := answers_iff_checks (.mapping entries)
  have answered := answers fun _ root => Document.mapping.inj root ▸ regular
  exact ⟨_, _, rfl, read, answered, (exit _ read [] .info).mpr answered⟩

end Chip8
