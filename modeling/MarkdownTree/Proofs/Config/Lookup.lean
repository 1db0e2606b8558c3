import MarkdownTree.Config.Load
import Mathlib.Data.List.Infix

/-! Which configuration holds: it is read from the file asked for, else from that of the nearest
directory with a configuration file, and what a command line sets goes before what the file says. -/

namespace MarkdownTree

namespace Config

variable {files : FileSystem} {here : Place}

/-- A search outwards ends after some looks: with the file in a directory, else with what the
search from the directory around it finds, and at the root with nothing. -/
inductive Search (files : FileSystem) : (here : Place) → (found : Option Place) → Nat → Prop
  | file {here : Place} (present : files.isFile (fileName :: here)) :
      Search files here (some (fileName :: here)) 1
  | outwards {name : String} {outer : Place} {found : Option Place} {looks : Nat}
      (absent : ¬ files.isFile (fileName :: name :: outer))
      (rest : Search files outer found looks) : Search files (name :: outer) found (looks + 1)
  | root (absent : ¬ files.isFile [fileName]) : Search files [] none 1

/-- Every search ends, after one look into each directory at most, and finds what is discovered. -/
theorem search_discover (files : FileSystem) (here : Place) :
    ∃ looks ≤ here.length + 1, Search files here (discover files here) looks := by
  induction here with
  | nil =>
    refine ⟨1, Nat.le_refl _, ?_⟩
    by_cases present : files.isFile [fileName]
    · have found : discover files [] = some [fileName] := List.find?_cons_of_pos present
      exact found ▸ .file present
    · have found : discover files [] = none :=
        (List.find?_cons_of_neg present).trans List.find?_nil
      exact found ▸ .root present
  | cons name outer ih =>
    by_cases present : files.isFile (fileName :: name :: outer)
    · have found : discover files (name :: outer) = some (fileName :: name :: outer) :=
        List.find?_cons_of_pos present
      exact ⟨1, Nat.le_add_left _ _, found ▸ .file present⟩
    · -- The search goes on from the directory around.
      have onwards : discover files (name :: outer) = discover files outer :=
        List.find?_cons_of_neg present
      obtain ⟨looks, few, rest⟩ := ih
      exact ⟨looks + 1, Nat.succ_le_succ few, onwards ▸ .outwards present rest⟩

/-- A directory is the nearest one with a configuration file: all others around `here` that have one
are around it. -/
structure Nearest (files : FileSystem) (here directory : Place) : Prop where
  around : directory <:+ here
  file : files.isFile (fileName :: directory)
  closest : ∀ other, other <:+ here → files.isFile (fileName :: other) → other <:+ directory

/-- There is one nearest directory. -/
theorem Nearest.unique {directory other : Place} (nearest : Nearest files here directory)
    (again : Nearest files here other) : directory = other :=
  have inner := nearest.closest other again.around again.file
  have outer := again.closest directory nearest.around nearest.file
  outer.eq_of_length_le inner.length_le

/-- What is found should be the file of the nearest directory that has one, and nothing only if no
directory has one. -/
def Finds (files : FileSystem) (here : Place) : Option Place → Prop
  | some place => ∃ directory, Nearest files here directory ∧ place = fileName :: directory
  | none => ∀ directory, directory <:+ here → ¬ files.isFile (fileName :: directory)

/-- There is one thing that should be found. -/
theorem Finds.unique {found found' : Option Place} (first : Finds files here found)
    (again : Finds files here found') : found = found' := by
  cases found with
  | none =>
    cases found' with
    | none => rfl
    | some place =>
      obtain ⟨directory, nearest, _⟩ := again
      exact absurd nearest.file (first directory nearest.around)
  | some place =>
    obtain ⟨directory, nearest, rfl⟩ := first
    cases found' with
    | none => exact absurd nearest.file (again directory nearest.around)
    | some place =>
      obtain ⟨other, nearest', rfl⟩ := again
      rw [nearest.unique nearest']

/-- A search finds what it should. -/
theorem Search.finds {found : Option Place} {looks : Nat}
    (search : Search files here found looks) : Finds files here found := by
  induction search with
  | @file here present =>
    exact ⟨here, ⟨List.suffix_refl here, present, fun _ around _ => around⟩, rfl⟩
  | @outwards name outer found looks absent rest ih =>
    -- A directory with a file is not the innermost one, so it is around the next one.
    have beyond : ∀ other, other <:+ name :: outer → files.isFile (fileName :: other) →
        other <:+ outer := by
      intro other around present
      rcases List.suffix_cons_iff.mp around with rfl | around
      · exact absurd present absent
      · exact around
    cases found with
    | none => exact fun other around present => ih other (beyond other around present) present
    | some place =>
      obtain ⟨directory, nearest, named⟩ := ih
      refine ⟨directory, ⟨nearest.around.trans (List.suffix_cons name outer), nearest.file, ?_⟩,
        named⟩
      exact fun other around present =>
        nearest.closest other (beyond other around present) present
  | root absent =>
    intro directory around present
    rw [List.suffix_nil.mp around] at present
    exact absent present

/-- What is discovered is what should be found. -/
theorem discover_finds (files : FileSystem) (here : Place) :
    Finds files here (discover files here) := by
  obtain ⟨_, _, search⟩ := search_discover files here
  exact search.finds

/-- The file that is chosen, and what stands there: the one asked for, whatever stands elsewhere,
else that of the nearest directory that has one. -/
inductive Chosen (files : FileSystem) (here : Place) : Option String → ConfigSource → Entry → Prop
  | given {path : String} {entry : Entry} (stands : files.entryAt here path = .ok entry) :
      Chosen files here (some path) (.given path) entry
  | found {directory : Place} {entry : Entry} (nearest : Nearest files here directory)
      (stands : files.entry? (fileName :: directory) = some entry) :
      Chosen files here none (.found (fileName :: directory)) entry

/-- A flag is what the override gives, else what the file gives, else on. -/
def settled : (override file : Option Bool) → Bool
  | some value, _ => value
  | none, some value => value
  | none, none => true

/-- How loading a configuration may end. -/
inductive Loads (parse : String → Except Position Flags) (files : FileSystem) (here : Place)
    (overrides : Flags) : Option String → Except ConfigError Config → Prop
  /-- Nothing stands where the path asked for leads. -/
  | missing {path : String} (absent : ∀ entry, files.entryAt here path ≠ .ok entry) :
      Loads parse files here overrides (some path) (.error (.notFound path))
  /-- The chosen file cannot be read. -/
  | unreadable {path? : Option String} {source : ConfigSource} {entry : Entry} {error : FileError}
      (chosen : Chosen files here path? source entry) (failed : entry.text = .error error) :
      Loads parse files here overrides path? (.error (.unreadable error))
  /-- The text of the chosen file cannot be parsed. -/
  | invalid {path? : Option String} {source : ConfigSource} {entry : Entry} {text : String}
      {position : Position} (chosen : Chosen files here path? source entry)
      (read : entry.text = .ok text) (failed : parse text = .error position) :
      Loads parse files here overrides path? (.error (.invalid position))
  /-- The chosen file says what the overrides leave open. -/
  | read {path? : Option String} {source : ConfigSource} {entry : Entry} {text : String}
      {file : Flags} (chosen : Chosen files here path? source entry)
      (read : entry.text = .ok text) (parsed : parse text = .ok file) :
      Loads parse files here overrides path? (.ok
        { alerts := settled overrides.alerts file.alerts
          imageLinks := settled overrides.imageLinks file.imageLinks
          source := some source })
  /-- No path is asked for, and no directory around has a configuration file. -/
  | noFile (absent : ∀ directory, directory <:+ here → ¬ files.isFile (fileName :: directory)) :
      Loads parse files here overrides none (.ok
        { alerts := settled overrides.alerts none
          imageLinks := settled overrides.imageLinks none
          source := none })

variable {parse : String → Except Position Flags} {overrides : Flags} {path? : Option String}

/-- Flags are settled one by one. -/
theorem ofFlags_eq (overrides file : Flags) (source : Option ConfigSource) :
    ofFlags overrides file source =
      { alerts := settled overrides.alerts file.alerts
        imageLinks := settled overrides.imageLinks file.imageLinks
        source } := by
  have first : ∀ override file : Option Bool,
      (override <|> file).getD true = settled override file := by
    rintro (_ | _) (_ | _) <;> rfl
  rw [ofFlags, first, first]

/-- What is read is parsed, and what is parsed is settled; nothing else is done after a failure. -/
theorem ofEntry_eq (parse : String → Except Position Flags) (overrides : Flags)
    (source : ConfigSource) (entry : Entry) : ofEntry parse overrides source entry =
      match entry.text with
      | .error error => .error (.unreadable error)
      | .ok text =>
        match parse text with
        | .error position => .error (.invalid position)
        | .ok file => .ok (ofFlags overrides file (some source)) := by
  unfold ofEntry
  cases entry.text with
  | error error => rfl
  | ok text => cases read : parse text <;>
      simp only [read, Except.mapError, bind, Except.bind, pure, Except.pure]

/-- Once a file is chosen, loading reads that one. -/
theorem load_of_chosen {source : ConfigSource} {entry : Entry}
    (chosen : Chosen files here path? source entry) :
    load parse files here path? overrides = ofEntry parse overrides source entry := by
  unfold load
  cases chosen with
  | given stands => simp only [stands]
  | @found directory _ nearest stands =>
    -- The search finds the file of the one nearest directory.
    have found : discover files here = some (fileName :: directory) :=
      (discover_finds files here).unique ⟨directory, nearest, rfl⟩
    simp only [found, stands]

/-- Reading a chosen file ends in one of three ways. -/
theorem loads_ofEntry {source : ConfigSource} {entry : Entry}
    (chosen : Chosen files here path? source entry) :
    Loads parse files here overrides path? (ofEntry parse overrides source entry) := by
  cases read : entry.text with
  | error error =>
    simp only [ofEntry_eq, read]
    exact .unreadable chosen read
  | ok text =>
    cases parsed : parse text with
    | error position =>
      simp only [ofEntry_eq, read, parsed]
      exact .invalid chosen read parsed
    | ok file =>
      simp only [ofEntry_eq, read, parsed, ofFlags_eq]
      exact .read chosen read parsed

/-- Loading ends in one of the ways it may. -/
theorem loads_load (parse : String → Except Position Flags) (files : FileSystem) (here : Place)
    (path? : Option String) (overrides : Flags) :
    Loads parse files here overrides path? (load parse files here path? overrides) := by
  cases path? with
  | some path =>
    cases stands : files.entryAt here path with
    | error error =>
      simp only [load, stands]
      exact .missing (by simp [stands])
    | ok entry =>
      have chosen := Chosen.given stands
      exact load_of_chosen chosen ▸ loads_ofEntry chosen
  | none =>
    have found := discover_finds files here
    cases discovered : discover files here with
    | none =>
      rw [discovered] at found
      simp only [load, discovered, ofFlags_eq]
      exact .noFile found
    | some place =>
      rw [discovered] at found
      obtain ⟨directory, nearest, rfl⟩ := found
      obtain ⟨entry, stands, _⟩ := (Option.any_eq_true _ _).mp nearest.file
      have chosen := Chosen.found nearest stands
      exact load_of_chosen chosen ▸ loads_ofEntry chosen

/-- What loading may end with is what it ends with. -/
theorem Loads.load_eq {outcome : Except ConfigError Config}
    (loads : Loads parse files here overrides path? outcome) :
    load parse files here path? overrides = outcome := by
  cases loads with
  | @missing path absent =>
    cases stands : files.entryAt here path with
    | error error => simp only [load, stands]
    | ok entry => exact absurd stands (absent entry)
  | unreadable chosen failed => simp only [load_of_chosen chosen, ofEntry_eq, failed]
  | invalid chosen read failed => simp only [load_of_chosen chosen, ofEntry_eq, read, failed]
  | read chosen read parsed =>
    simp only [load_of_chosen chosen, ofEntry_eq, read, parsed, ofFlags_eq]
  | noFile absent =>
    have found : discover files here = none := (discover_finds files here).unique absent
    simp only [load, found, ofFlags_eq]

/--
A configuration is read from the file asked for, else from that of the nearest directory that has
one, else it is the default one; a chosen file that cannot be read or parsed is an error, and
nothing takes its place.

The search for a file ends after one look into each directory at most. When a file is asked for, no
other is looked at.
-/
theorem configuration_comes_from_chosen_file (parse : String → Except Position Flags)
    (files : FileSystem) (here : Place) (overrides : Flags) :
    (∀ path? outcome, load parse files here path? overrides = outcome ↔
      Loads parse files here overrides path? outcome) ∧
    (∃ looks ≤ here.length + 1, Search files here (discover files here) looks) ∧
    ∀ (other : FileSystem) (path : String), other.entryAt here path = files.entryAt here path →
      load parse other here (some path) overrides =
        load parse files here (some path) overrides := by
  refine ⟨fun path? outcome => ⟨fun loaded => ?_, Loads.load_eq⟩, search_discover files here,
    fun other path same => ?_⟩
  · exact loaded ▸ loads_load parse files here path? overrides
  · simp only [load, same]

/-- A directory with the name of a configuration file is passed by, and the unreadable file of the
nearest directory is not replaced by the readable one further out; a file that is asked for is read
whether these are there or not. -/
theorem unreadable_file_not_replaced :
    let near : List (Place × Entry) := [([], .directory), (["w"], .directory),
      (["v", "w"], .directory), (["own.toml", "v", "w"], .file ByteArray.empty)]
    let configs : List (Place × Entry) := [(["mdfix.toml", "v", "w"], .directory),
      (["mdfix.toml", "w"], .unreadable .denied), (["mdfix.toml"], .file ByteArray.empty)]
    let files : FileSystem := ⟨fun place => (near ++ configs).lookup place⟩
    let other : FileSystem := ⟨fun place => near.lookup place⟩
    let parse : String → Except Position Flags := fun _ => .ok { alerts := some false }
    load parse files ["v", "w"] none {} = .error (.unreadable .denied) ∧
      other.entryAt ["v", "w"] "own.toml" = files.entryAt ["v", "w"] "own.toml" ∧
      load parse other ["v", "w"] (some "own.toml") {} =
        load parse files ["v", "w"] (some "own.toml") {} := by
  intro near configs files other parse
  obtain ⟨loaded, _, alone⟩ := configuration_comes_from_chosen_file parse files ["v", "w"] {}
  have nearest : Nearest files ["v", "w"] ["w"] := by
    refine ⟨⟨["v"], rfl⟩, rfl, fun directory around present => ?_⟩
    -- Only in the innermost directory the file would be nearer, and there it is none.
    rcases List.suffix_cons_iff.mp around with rfl | around
    · cases present
    · exact around
  have same : other.entryAt ["v", "w"] "own.toml" = files.entryAt ["v", "w"] "own.toml" := by
    -- The path is one name, seen from the innermost directory.
    have parts : Path.parts "own.toml" = ["own.toml"] := by decide
    have start : Path.start ["v", "w"] "own.toml" = ["v", "w"] := by decide +kernel
    have name : "own.toml".endsWith "/" = false := by decide +kernel
    simp only [FileSystem.entryAt, parts, start, name]
    rfl
  exact ⟨(loaded none _).mpr (.unreadable (.found nearest rfl) rfl), same, alone other _ same⟩

end Config

end MarkdownTree
