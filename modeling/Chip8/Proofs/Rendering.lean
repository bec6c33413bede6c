import Mathlib.Data.List.Perm.Basic
import Chip8.Proofs.KeyNames

/-! Configurations, rendered and read back. A rendering writes the settings of a configuration as the
entries of a mapping, in any order, and may leave out those that have their default. It can choose how
to write an integer. Reading it gives the configuration again and has no notices. -/

namespace Chip8

/-- The integer is written as a number or as the text of a plain numeral. -/
inductive Document.Writes : Document → Int → Prop
  | int (n : Int) : Writes (.int n) n
  | text {cs : List Char} {n : Int} (plain : Text.Numeral.Plain cs n) : Writes (.text (.ofChars cs)) n

theorem Document.Writes.readInt {value : Document} {n : Int} (writes : value.Writes n) :
    Config.readInt value = .ok n := by
  cases writes with
  | int n => rfl
  | text plain => simp [Config.readInt, Text.Numeral.integer?_of_plain plain]

/-- An entry of a rendering: its name, the values that write it, and whether it may be left out. -/
structure Setting where
  name : Text
  writes : Document → Prop
  omissible : Prop

namespace Setting

/-- The entries write the settings one after another. -/
inductive Listed : List Setting → List (Document × Document) → Prop
  | nil : Listed [] []
  | written {s : Setting} {rest : List Setting} {value : Document}
      {entries : List (Document × Document)} (writes : s.writes value)
      (listed : Listed rest entries) : Listed (s :: rest) ((.text s.name, value) :: entries)
  | omitted {s : Setting} {rest : List Setting} {entries : List (Document × Document)}
      (omissible : s.omissible) (listed : Listed rest entries) : Listed (s :: rest) entries

/-- The entries write the settings in some order. -/
def Rendered (settings : List Setting) (entries : List (Document × Document)) : Prop :=
  ∃ listed, Listed settings listed ∧ entries.Perm listed

/-- What stands under the name of a setting writes it; if nothing does, it may be left out. -/
def FoundIn (s : Setting) (entries : List (Document × Document)) : Prop :=
  (∃ value, Document.find? entries (.text s.name) = some value ∧ s.writes value) ∨
    (Document.find? entries (.text s.name) = none ∧ s.omissible)

variable {settings : List Setting} {listed entries : List (Document × Document)} {s : Setting}

theorem Listed.exists_setting (written : Listed settings listed) :
    ∀ entry ∈ listed, ∃ s ∈ settings, entry.1 = .text s.name ∧ s.writes entry.2 := by
  induction written with
  | nil => simp
  | written writes listed ih =>
    refine List.forall_mem_cons.mpr ⟨⟨_, List.mem_cons_self, rfl, writes⟩, ?_⟩
    intro entry member
    obtain ⟨s, inside, what⟩ := ih entry member
    exact ⟨s, List.mem_cons_of_mem _ inside, what⟩
  | omitted omissible listed ih =>
    intro entry member
    obtain ⟨s, inside, what⟩ := ih entry member
    exact ⟨s, List.mem_cons_of_mem _ inside, what⟩

theorem Listed.omissible_or_written (written : Listed settings listed) (member : s ∈ settings) :
    s.omissible ∨ ∃ entry ∈ listed, entry.1 = .text s.name := by
  induction written with
  | nil => cases member
  | written writes listed ih =>
    obtain rfl | later := List.mem_cons.mp member
    · exact .inr ⟨_, List.mem_cons_self, rfl⟩
    · refine (ih later).imp_right ?_
      rintro ⟨entry, inside, named⟩
      exact ⟨entry, List.mem_cons_of_mem _ inside, named⟩
  | omitted omissible listed ih =>
    obtain rfl | later := List.mem_cons.mp member
    · exact .inl omissible
    · exact ih later

theorem Listed.nil_of_omissible (all : ∀ s ∈ settings, s.omissible) : Listed settings [] := by
  induction settings with
  | nil => exact .nil
  | cons s rest ih =>
    obtain ⟨here, later⟩ := List.forall_mem_cons.mp all
    exact .omitted here (ih later)

namespace Rendered

variable (rendered : Rendered settings entries)
include rendered

theorem exists_setting :
    ∀ entry ∈ entries, ∃ s ∈ settings, entry.1 = .text s.name ∧ s.writes entry.2 := by
  obtain ⟨listed, written, order⟩ := rendered
  intro entry member
  exact written.exists_setting entry (order.mem_iff.mp member)

theorem omissible_or_written (member : s ∈ settings) :
    s.omissible ∨ ∃ entry ∈ entries, entry.1 = .text s.name := by
  obtain ⟨listed, written, order⟩ := rendered
  refine (written.omissible_or_written member).imp_right ?_
  rintro ⟨entry, inside, named⟩
  exact ⟨entry, order.mem_iff.mpr inside, named⟩

/-- Settings of different names do not hide one another. -/
theorem foundIn (names : (settings.map name).Nodup) (member : s ∈ settings) : s.FoundIn entries := by
  unfold FoundIn Document.find?
  cases found : entries.find? fun entry => entry.1.sameKey (.text s.name) with
  | none =>
    have absent : ∀ entry ∈ entries, entry.1 ≠ .text s.name := by
      simpa [Document.sameKey_text] using found
    refine .inr ⟨rfl, (rendered.omissible_or_written member).resolve_right ?_⟩
    rintro ⟨entry, inside, named⟩
    exact absent entry inside named
  | some entry =>
    obtain ⟨other, inside, named, writes⟩ :=
      rendered.exists_setting entry (List.mem_of_find?_eq_some found)
    -- The entry writes some setting of this name, and there is only one.
    have key : entry.1 = .text s.name := by
      simpa [Document.sameKey_text] using List.find?_some found
    have same : other = s :=
      List.inj_on_of_nodup_map names inside member (Document.text.inj (named.symm.trans key))
    exact .inl ⟨entry.2, rfl, same ▸ writes⟩

end Rendered

def integer (name : String) (n default : Int) : Setting :=
  ⟨name, (·.Writes n), n = default⟩

/-- An integer that may be missing. -/
def optional (name : String) (n? : Option Int) : Setting :=
  ⟨name, fun value => n?.elim (value = .null) value.Writes, n? = none⟩

def plain (name : String) (value default : Document) : Setting :=
  ⟨name, (· = value), value = default⟩

def mapping (name : String) (settings : List Setting) (omissible : Prop) : Setting :=
  ⟨name, fun value => ∃ part, value = .mapping part ∧ Rendered settings part, omissible⟩

variable {name : String}

theorem readIntAt {n default : Int} (found : (integer name n default).FoundIn entries) :
    Config.readIntAt entries name default = .ok n := by
  simp only [FoundIn, integer] at found
  obtain ⟨value, named, writes⟩ | ⟨named, rfl⟩ := found
  · simp [Config.readIntAt, named, writes.readInt]
  · simp [Config.readIntAt, named]

theorem getD_find? {value default : Document} (found : (plain name value default).FoundIn entries) :
    (Document.find? entries (.text name)).getD default = value := by
  simp only [FoundIn, plain] at found
  obtain ⟨_, named, rfl⟩ | ⟨named, rfl⟩ := found <;> simp [named]

theorem readSeed {n? : Option Int} (found : (optional "seed" n?).FoundIn entries) :
    Config.readSeed entries = .ok n? := by
  simp only [FoundIn, optional] at found
  obtain ⟨value, named, writes⟩ | ⟨named, rfl⟩ := found
  · cases n? with
    | none =>
      obtain rfl : value = .null := writes
      simp [Config.readSeed, named]
    | some n =>
      have writes : value.Writes n := writes
      have read := writes.readInt
      cases writes <;> simp [Config.readSeed, named, read, Except.map]
  · simp [Config.readSeed, named]

/-- The entries of a section render its settings, also if the section is left out as a whole. -/
theorem readSection {omissible : Prop} (found : (mapping name settings omissible).FoundIn entries)
    (whole : omissible → ∀ s ∈ settings, s.omissible) :
    ∃ part, Config.readSection entries name = .ok part ∧ Rendered settings part := by
  simp only [FoundIn, mapping] at found
  obtain ⟨_, named, part, rfl, rendered⟩ | ⟨named, omitted⟩ := found
  · exact ⟨part, by simp [Config.readSection, named], rendered⟩
  · exact ⟨[], by simp [Config.readSection, named],
      [], .nil_of_omissible (whole omitted), .nil⟩

end Setting

namespace DisplaySettings

def settings (d : DisplaySettings) : List Setting :=
  let defaults : DisplaySettings := {}
  [.integer "scale" d.scale defaults.scale,
   .plain "foreground" d.foreground defaults.foreground,
   .plain "background" d.background defaults.background]

theorem readDisplay {d : DisplaySettings} {part : List (Document × Document)}
    (rendered : Setting.Rendered d.settings part) : Config.readDisplay part = .ok d := by
  have names : (d.settings.map Setting.name).Nodup := by
    simp only [settings, Setting.integer, Setting.plain, List.map_cons, List.map_nil]
    decide
  have found : ∀ s ∈ d.settings, s.FoundIn part := fun s member => rendered.foundIn names member
  simp only [settings, List.forall_mem_cons] at found
  obtain ⟨scale, foreground, background, _⟩ := found
  simp only [Config.readDisplay, Setting.readIntAt scale, Setting.getD_find? foreground,
    Setting.getD_find? background]
  rfl

end DisplaySettings

namespace Keymap

def settings (m : Keymap) : List Setting :=
  m.entries.map fun entry => ⟨entry.1, (·.Writes entry.2), False⟩

def Entry (written : Document × Document) (entry : Text × Int) : Prop :=
  written.1 = .text entry.1 ∧ written.2.Writes entry.2

theorem forall₂_of_listed {entries : List (Text × Int)} {listed : List (Document × Document)}
    (written : Setting.Listed (settings ⟨entries⟩) listed) : List.Forall₂ Entry listed entries := by
  induction entries generalizing listed with
  | nil =>
    cases written
    exact .nil
  | cons entry rest ih =>
    cases written with
    | written writes tail => exact .cons ⟨rfl, writes⟩ (ih tail)
    | omitted omissible tail => cases omissible

/-- Entries of new names come behind those that are there. -/
theorem readKeymap {m : Keymap} {part : List (Document × Document)} {entries : List (Text × Int)}
    (written : List.Forall₂ Entry part entries) (normal : Normal ⟨m.entries ++ entries⟩) :
    Config.readKeymap m part = .ok ⟨m.entries ++ entries⟩ := by
  -- On the section, for every keymap read so far.
  induction written generalizing m with
  | nil => simp [Config.readKeymap]
  | @cons written entry part rest here tail ih =>
    obtain ⟨name, value⟩ := written
    obtain ⟨rfl, writes⟩ : name = .text entry.1 ∧ value.Writes entry.2 := here
    have upper := normal.upper entry (by simp)
    have key := normal.keys entry (by simp)
    have fresh : entry.1 ∉ m.entries.map Prod.fst := by
      have names := normal.names
      rw [List.map_append, List.map_cons, List.nodup_append] at names
      exact fun member => names.2.2 _ member _ List.mem_cons_self rfl
    have inserted : m.insert entry.1 entry.2 = ⟨m.entries ++ [entry]⟩ := by
      rw [insert, insertEntry_of_not_mem fresh]
    have assoc : m.entries ++ [entry] ++ rest = m.entries ++ entry :: rest := by simp
    calc Config.readKeymap m ((.text entry.1, value) :: part)
        = if IsKey entry.2 then Config.readKeymap (m.insert (Text.upper entry.1) entry.2) part
          else .error (.invalid (.badKey entry.1 entry.2)) := by
            simp only [Config.readKeymap, writes.readInt]
            rfl
      _ = Config.readKeymap ⟨m.entries ++ [entry]⟩ part := by rw [if_pos key, upper, inserted]
      _ = .ok ⟨m.entries ++ entry :: rest⟩ := assoc ▸ ih (assoc.symm ▸ normal)

theorem readKeymap_of_rendered {m : Keymap} (normal : m.Normal)
    {part : List (Document × Document)} (rendered : Setting.Rendered m.settings part) :
    ∃ entries, Config.readKeymap {} part = .ok ⟨entries⟩ ∧ entries.Perm m.entries := by
  obtain ⟨listed, written, order⟩ := rendered
  obtain ⟨entries, same, reordered⟩ := List.perm_comp_forall₂ order (forall₂_of_listed written)
  have normal := normal.of_perm reordered
  exact ⟨entries, readKeymap same normal, reordered⟩

end Keymap

namespace Config

/-- The settings of a configuration. A section as a whole may be left out if all of it is default. -/
def settings (c : Config) : List Setting :=
  let defaults : Config := {}
  [.plain "architecture" (.text c.architecture) (.text defaults.architecture),
   .plain "rom" c.rom defaults.rom,
   .integer "cpu_hz" c.cpuHz defaults.cpuHz,
   .integer "timer_hz" c.timerHz defaults.timerHz,
   .optional "seed" c.seed,
   .mapping "display" c.display.settings (c.display = defaults.display),
   .mapping "keymap" c.keymap.settings (c.keymap = defaults.keymap)]

/-- Upper case throughout, and a keymap of different names. -/
structure Normal (c : Config) : Prop where
  architecture : Text.upper c.architecture = c.architecture
  keymap : c.keymap.Normal

variable {c : Config} {entries : List (Document × Document)}

/-- Every configuration that was read is normal, so it can be rendered and read again. -/
theorem normal_of_accepted (accepted : (readEntries entries).result = .ok c) : c.Normal where
  architecture := by
    obtain ⟨⟨text, same⟩, _⟩ := parts_of_accepted accepted
    rw [same, Text.upper_upper]
  keymap := normal_of_readKeymap .empty (parts_of_accepted accepted).2

theorem map_name_settings (c : Config) :
    c.settings.map Setting.name = settingNames.map Text.ofString := rfl

theorem unknownKeys_of_rendered (rendered : Setting.Rendered c.settings entries) :
    unknownKeys entries = [] := by
  rw [unknownKeys, List.filter_eq_nil_iff]
  intro key member
  obtain ⟨entry, inside, rfl⟩ := List.mem_map.mp member
  obtain ⟨s, listed, named, _⟩ := rendered.exists_setting entry inside
  have known : s.name ∈ settingNames.map Text.ofString :=
    map_name_settings c ▸ List.mem_map_of_mem listed
  obtain ⟨name, setting, same⟩ := List.mem_map.mp known
  have found : settingNames.any fun name => entry.1.sameKey (.text name) :=
    List.any_eq_true.mpr ⟨name, setting, by rw [named, ← same, Document.sameKey_text]⟩
  simp [found]

theorem found_of_rendered (rendered : Setting.Rendered c.settings entries) :
    ∀ s ∈ c.settings, s.FoundIn entries := by
  have names : (c.settings.map Setting.name).Nodup := by
    rw [map_name_settings]
    decide
  exact fun s member => rendered.foundIn names member

theorem readHead_of_rendered (normal : c.Normal) (rendered : Setting.Rendered c.settings entries) :
    ∃ named, named.Perm c.keymap.entries ∧ readHead entries =
      .ok { architecture := c.architecture, display := c.display, keymap := ⟨named⟩ } := by
  have found := found_of_rendered rendered
  simp only [settings, List.forall_mem_cons] at found
  obtain ⟨architecture, _, _, _, _, display, keymap, _⟩ := found
  obtain ⟨shown, shownRead, shownRendered⟩ := Setting.readSection display (by
    intro default
    simp [default, DisplaySettings.settings, Setting.integer, Setting.plain])
  obtain ⟨part, partRead, partRendered⟩ := Setting.readSection keymap (by
    intro default
    simp [default, Keymap.settings])
  have displayRead := DisplaySettings.readDisplay shownRendered
  obtain ⟨named, namedRead, order⟩ := Keymap.readKeymap_of_rendered normal.keymap partRendered
  refine ⟨named, order, ?_⟩
  simp only [readHead, Setting.getD_find? architecture, textOf, Document.text?, shownRead,
    displayRead, partRead, namedRead, normal.architecture, bind, Except.bind]
  rfl

theorem readTail_of_rendered (rendered : Setting.Rendered c.settings entries) (head : Config) :
    readTail entries head =
      .ok { head with rom := c.rom, cpuHz := c.cpuHz, timerHz := c.timerHz, seed := c.seed } := by
  have found := found_of_rendered rendered
  simp only [settings, List.forall_mem_cons] at found
  obtain ⟨_, rom, cpuHz, timerHz, seed, _⟩ := found
  have romRead : (Document.find? entries (.text "rom")).getD .null = c.rom :=
    Setting.getD_find? rom
  simp only [readTail, Setting.readIntAt cpuHz, Setting.readIntAt timerHz, Setting.readSeed seed,
    romRead, bind, Except.bind]
  rfl

/-- A rendered configuration is read back as it was, without notices. The entries of its keymap come
in the order of the rendering. -/
theorem ofDocument_of_rendered (normal : c.Normal)
    (rendered : Setting.Rendered c.settings entries) :
    ∃ named, named.Perm c.keymap.entries ∧
      ofDocument (.mapping entries) = ⟨[], .ok { c with keymap := ⟨named⟩ }⟩ := by
  obtain ⟨named, order, head⟩ := readHead_of_rendered normal rendered
  have notices : unknownNotices entries = .ok [] := by
    rw [unknownNotices, unknownKeys_of_rendered rendered]
  refine ⟨named, order, ?_⟩
  simp only [ofDocument, readEntries, head, notices, readTail_of_rendered rendered]

/-- Five settings in reverse, with integers in four spellings. -/
theorem ofDocument_of_rendered_reversed :
    ∃ named, named.Perm [("UP", 0x2), ("É", 0xF)] ∧
      ofDocument (.mapping
        [(.text "keymap", .mapping [(.text "É", .text "0xf"), (.text "UP", .int 2)]),
         (.text "display", .mapping [(.text "scale", .text "0XfF")]),
         (.text "seed", .text "-42"),
         (.text "cpu_hz", .text "+0700"),
         (.text "rom", .text "maze.ch8")]) =
        ⟨[], .ok { rom := .text "maze.ch8", cpuHz := 700, seed := some (-42),
                   display := { scale := 255 }, keymap := ⟨named⟩ }⟩ := by
  let c : Config :=
    { rom := .text "maze.ch8", cpuHz := 700, seed := some (-42),
      display := { scale := 255 }, keymap := ⟨[("UP", 0x2), ("É", 0xF)]⟩ }
  have normal : c.Normal := ⟨by decide +kernel, by decide +kernel, by decide +kernel, by decide⟩
  have fast : Text.Numeral.Plain ('+' :: '0' :: Nat.toDigits 10 700) 700 :=
    .positive ((Text.Numeral.spells_toDigits 700).zero_cons (by decide)) (by decide)
  have negative : Text.Numeral.Plain "-42".toList (-42) :=
    Text.Numeral.plain_of_intText? (by decide +kernel)
  have small : Text.Numeral.IsDigit 16 'f' 0xF := ⟨by decide, .inl rfl⟩
  have capital : Text.Numeral.IsDigit 16 'F' 0xF := ⟨by decide, .inr rfl⟩
  have wide : Text.Numeral.Plain ['0', 'X', 'f', 'F'] 0xFF :=
    .hexadecimal (.inr rfl) ((Text.Numeral.Spells.digit small).append capital)
  have last : Text.Numeral.Plain ['0', 'x', 'f'] 0xF := .hexadecimal (.inl rfl) (.digit small)
  have shown : Setting.Rendered c.display.settings [(.text "scale", .text "0XfF")] :=
    ⟨_, .written (.text wide) (.omitted rfl (.omitted rfl .nil)), .refl _⟩
  have keys : Setting.Rendered c.keymap.settings [(.text "É", .text "0xf"), (.text "UP", .int 2)] :=
    ⟨_, .written (.int 2) (.written (.text last) .nil), .swap _ _ _⟩
  have listed : Setting.Listed c.settings _ :=
    .omitted rfl (.written rfl (.written (.text fast) (.omitted rfl (.written (.text negative)
      (.written ⟨_, rfl, shown⟩ (.written ⟨_, rfl, keys⟩ .nil))))))
  have rendered : Setting.Rendered c.settings _ := ⟨_, listed, List.reverse_perm _⟩
  exact ofDocument_of_rendered normal rendered

end Config

end Chip8
