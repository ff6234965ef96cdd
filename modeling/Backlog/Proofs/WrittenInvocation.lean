import Backlog.Proofs.ArgumentKinds
import Backlog.Program
import Mathlib.Data.List.Forall2

set_option relaxedAutoImplicit false
set_option autoImplicit false

/-!
# Ways to write an invocation

What a user wants can be written in many ways: the parts come in any order, and most of them have
more than one spelling. Each way is read as the configuration that is wanted, and whatever is read
as a configuration has been written in one of these ways.

## Main definitions

* `Backlog.Request` — what a user wants, with its `configuration`.
* `Backlog.Request.Adds` — the spellings of one part of a request.
* `Backlog.Request.IsBegunAs` — the parts in any order, without a delimiter.
* `Backlog.Request.IsWrittenAs` — all ways to write a request.
* `Backlog.IsWithoutDots` — what is left of an extension when its leading dots are dropped.

## Main results

* `Backlog.Reading.through_of_adds` — one part more is read as what it adds to the request.
* `Backlog.Reading.adds_of_next` — what goes on from a request is a spelling of one part.
* `Backlog.Reading.begun_of_through` — what is read without a delimiter has been begun.
* `Backlog.Configuration.read_append_eq_ok_iff` — reading before and behind a delimiter.
* `Backlog.read_eq_ok_iff_isWrittenAs` — exactly the written requests are read.
-/

namespace Backlog

open Text

/-! ## Requests -/

/-- What a user wants: extensions to look for, a path or none, and flags that are set or not. -/
structure Request where
  extensions : List Text
  path? : Option Text
  noIgnore : Bool
  verbose : Bool
deriving DecidableEq

variable {request other : Request} {word : Text} {words part : List Text}

namespace Request

/-- A user who wants nothing in particular. -/
def nothing : Request := ⟨[], none, false, false⟩

/-- The configuration that is wanted. The current directory is searched for files of one kind where
nothing else is said. -/
def configuration (request : Request) : Configuration where
  path := request.path?.getD ".".toList
  extensions := if request.extensions = [] then ["js".toList] else request.extensions
  noIgnore := request.noIgnore
  verbose := request.verbose

/-! ## Ways to write a request -/

/-- **The spellings of one part of a request**, and what it adds to the parts before it. An
extension is joined to its option or stands behind it, but then it must not look like an option
itself. Flags and the path stand at most once. -/
inductive Adds : Request → List Text → Request → Prop
  | joined (request : Request) (extension : Text) :
      Adds request ["--ext=".toList ++ extension]
        { request with extensions := request.extensions ++ [extension] }
  | apart (request : Request) {extension : Text} : IsPlain extension →
      Adds request ["--ext".toList, extension]
        { request with extensions := request.extensions ++ [extension] }
  | noIgnore {request : Request} : request.noIgnore = false →
      Adds request ["--no-ignore".toList] { request with noIgnore := true }
  | verbose {request : Request} {word : Text} : request.verbose = false →
      word ∈ ["-v".toList, "--verbose".toList] →
        Adds request [word] { request with verbose := true }
  | path {request : Request} {path : Text} : request.path? = none → path ≠ [] → IsPlain path →
      Adds request [path] { request with path? := some path }

/-- The words are parts of the request in any order. -/
inductive IsBegunAs : Request → List Text → Prop
  | nothing : IsBegunAs nothing []
  | more {request other : Request} {words part : List Text} :
      IsBegunAs request words → Adds request part other → IsBegunAs other (words ++ part)

/-- **All ways to write a request**: its parts in any order, and at the end perhaps a delimiter. The
path may stand behind the delimiter, and may then look like an option. -/
inductive IsWrittenAs : Request → List Text → Prop
  | unclosed {request : Request} {words : List Text} : IsBegunAs request words →
      IsWrittenAs request words
  | closed {request : Request} {words : List Text} : IsBegunAs request words →
      IsWrittenAs request (words ++ [delimiter])
  | placed {request : Request} {words : List Text} {path : Text} : IsBegunAs request words →
      request.path? = none → path ≠ [] →
        IsWrittenAs { request with path? := some path } (words ++ [delimiter, path])

/-- No part of a request is an empty path. -/
lemma Adds.path?_ne (adds : Adds request part other) (h : request.path? ≠ some []) :
    other.path? ≠ some [] := by
  cases adds with
  | path _ nonempty _ => exact fun same => nonempty (Option.some.inj same)
  | _ => exact h

/-- No part of a request is a delimiter. -/
lemma Adds.notMem_delimiter (adds : Adds request part other) : delimiter ∉ part := by
  have plainly {word : Text} (plain : IsPlain word) : delimiter ≠ word := (plain.ne_dashes []).symm
  cases adds with
  | joined extension => exact mt List.mem_singleton.mp nofun
  | apart plain =>
    exact List.not_mem_cons_of_ne_of_not_mem nofun (mt List.mem_singleton.mp (plainly plain))
  | noIgnore => decide
  | verbose _ spelling => rcases List.mem_pair.mp spelling with rfl | rfl <;> decide
  | path _ _ plain => exact mt List.mem_singleton.mp (plainly plain)

/-- A request that is begun has no empty path. -/
lemma IsBegunAs.path?_ne (begun : request.IsBegunAs words) : request.path? ≠ some [] := by
  induction begun with
  | nothing => nofun
  | more _ adds ih => exact adds.path?_ne ih

/-- A request is begun without a delimiter. -/
lemma IsBegunAs.notMem_delimiter (begun : request.IsBegunAs words) : delimiter ∉ words := by
  induction begun with
  | nothing => exact List.not_mem_nil
  | more _ adds ih => exact List.not_mem_append ih adds.notMem_delimiter

/-! ## Readings -/

/-- The reading in which a request has been read. -/
def reading (request : Request) : Reading :=
  ⟨request.path?, request.extensions, request.noIgnore, request.verbose, false⟩

/-- The reading in which a request has been read, and the name of an option that lacks a value. -/
def awaiting (request : Request) : Reading := { request.reading with awaitsExtension := true }

/-- The configuration of a reading is the one that is wanted. -/
lemma configuration_reading (request : Request) :
    request.reading.configuration = request.configuration := by
  rw [Reading.configuration, configuration]
  cases h : request.extensions <;> simp [reading, h, Search.default]

end Request

/-- Something is bound without an error if it comes without one itself. -/
lemma bind_eq_ok_iff {ε α β : Type} {x : Except ε α} {f : α → Except ε β} {b : β} :
    x >>= f = .ok b ↔ ∃ a, x = .ok a ∧ f a = .ok b := by
  cases x with
  | error why => exact ⟨nofun, nofun⟩
  | ok a =>
    simp only [Except.ok.injEq, exists_eq_left']
    rfl

namespace Reading

open Request

variable {reading later : Reading}

/-- A reading is settled if no value is missing and there is no empty path. -/
lemma settled_eq_ok_iff :
    reading.settled = .ok later ↔
      later = reading ∧ reading.awaitsExtension = false ∧ reading.path? ≠ some [] := by
  unfold settled
  split_ifs with unsettled
  · rw [Bool.or_eq_true, beq_iff_eq] at unsettled
    refine iff_of_false nofun ?_
    rintro ⟨-, given, nonempty⟩
    rcases unsettled with awaits | empty
    · exact absurd (given.symm.trans awaits) Bool.false_ne_true
    · exact nonempty empty
  · rw [Bool.or_eq_true, beq_iff_eq, not_or, Bool.not_eq_true] at unsettled
    rw [Except.ok.injEq, and_iff_left unsettled, eq_comm]

/-- A reading that is not settled ends at the next option. -/
lemma exists_settled_eq_error (h : reading.awaitsExtension = true ∨ reading.path? = some []) :
    ∃ why, reading.settled = .error why := by
  refine ⟨.misuse .invalidValue, if_pos ?_⟩
  rcases h with h | h <;> simp [h]

/-- A reading of a request is settled if its path is not empty. -/
lemma settled_reading (h : request.path? ≠ some []) :
    request.reading.settled = .ok request.reading :=
  settled_eq_ok_iff.mpr ⟨rfl, rfl, h⟩

/-- The reading after some words, none of which is a delimiter. -/
def through (reading : Reading) (words : List Text) : Except Interruption Reading :=
  words.foldlM (fun reading word => reading.next (.ofText word)) reading

/-- The words are read one after another. -/
lemma through_append (reading : Reading) (words part : List Text) :
    reading.through (words ++ part) = reading.through words >>= (·.through part) :=
  List.foldlM_append

/-- A single word is read as the argument that it spells. -/
lemma through_singleton {argument : Argument} (h : Argument.IsSpelled argument word)
    (reading : Reading) : reading.through [word] = reading.next argument := by
  rw [through, List.foldlM_cons, Argument.isSpelled_iff.mp h]
  exact bind_pure _

/-! ## One part -/

/-- **One part more is read as what it adds to the request.** -/
lemma through_of_adds (adds : Adds request part other) (h : request.path? ≠ some []) :
    request.reading.through part = .ok other.reading := by
  have settled := settled_reading h
  cases adds with
  | joined extension =>
    have spelled : Argument.IsSpelled (.extension (some extension))
        ("--ext=".toList ++ extension) := .extension (some extension)
    rw [through_singleton spelled, next, settled]
    rfl
  | @apart extension plain =>
    have spelled : Argument.IsSpelled (.extension none) "--ext".toList := .extension none
    have named : request.reading.through ["--ext".toList] = .ok request.awaiting := by
      rw [through_singleton spelled, next, settled]
      rfl
    have given : request.awaiting.through [extension] = .ok (request.reading.adding extension) :=
      through_singleton (.plain plain) _
    rw [← List.singleton_append, through_append, named]
    exact given
  | noIgnore unset =>
    have spelled : Argument.IsSpelled (.flag .noIgnore none) "--no-ignore".toList :=
      .flag .noIgnore none
    rw [through_singleton spelled, next, settled]
    exact if_neg (by simp [Request.reading, unset])
  | verbose unset spelling =>
    have raised : request.reading.raise .verbose =
        .ok { request with verbose := true }.reading := if_neg (by simp [Request.reading, unset])
    rcases List.mem_pair.mp spelling with rfl | rfl
    · have spelled : Argument.IsSpelled (.letters ['v']) "-v".toList := .letters [] (by decide)
      rw [through_singleton spelled, next, List.foldlM_cons, letter, settled]
      exact (congrArg (· >>= pure) raised).trans (bind_pure _)
    · have spelled : Argument.IsSpelled (.flag .verbose none) "--verbose".toList :=
        .flag .verbose none
      rw [through_singleton spelled, next, settled]
      exact raised
  | path unset nonempty plain =>
    rw [through_singleton (.plain plain), next, if_neg (by simp [Request.reading]), place,
      if_neg (by simp [Request.reading, unset]), settled]
    rfl

/-! ## One argument -/

variable {argument : Argument}

/-- **A reading that is not settled goes on with plain words only.** -/
lemma plain_of_next (unsettled : reading.awaitsExtension = true ∨ reading.path? = some [])
    (spelled : argument.IsSpelled word) (h : reading.next argument = .ok later) :
    argument = .plain word ∧ IsPlain word := by
  obtain ⟨why, ends⟩ := exists_settled_eq_error unsettled
  cases spelled with
  | flag flag value? => cases value? <;> simp [next, ends, Except.bind] at h
  | extension value? => cases value? <;> simp [next, ends, Except.map] at h
  | unknown => cases h
  | @letters first others _ =>
    rw [next, List.foldlM_cons, letter] at h
    cases known : Flag.ofLetter? first <;> simp [known, ends, bind, Except.bind] at h
  | plain plain => exact ⟨rfl, plain⟩

/-- A reading with an empty path keeps it, if it goes on. -/
lemma path?_of_next (empty : reading.path? = some []) (spelled : argument.IsSpelled word)
    (h : reading.next argument = .ok later) : later.path? = some [] := by
  obtain ⟨rfl, -⟩ := plain_of_next (.inr empty) spelled h
  rw [next] at h
  split_ifs at h with awaits
  · cases h
    exact empty
  · simp [place, empty] at h

/-- An option without its value goes on with a plain word, which is the value. -/
lemma adds_of_next_awaiting (spelled : argument.IsSpelled word)
    (h : request.awaiting.next argument = .ok later) :
    ∃ other, Adds request ["--ext".toList, word] other ∧ later = other.reading := by
  obtain ⟨rfl, plain⟩ := plain_of_next (.inl rfl) spelled h
  have given : Except.ok (request.awaiting.adding word) = .ok later := h
  cases given
  exact ⟨_, .apart request plain, rfl⟩

/-- A flag goes on if it is one of two and has not been set before. -/
lemma raise_eq_ok_iff {flag : Flag} :
    request.reading.raise flag = .ok later ↔
      (flag = .noIgnore ∧ request.noIgnore = false ∧
        { request with noIgnore := true }.reading = later) ∨
      flag = .verbose ∧ request.verbose = false ∧
        { request with verbose := true }.reading = later := by
  cases flag with
  | noIgnore => cases unset : request.noIgnore <;> simp [raise, Request.reading, unset]
  | verbose => cases unset : request.verbose <;> simp [raise, Request.reading, unset]
  | help => simp [raise]
  | version => simp [raise]

/-- Of the short flags one goes on, if it has not been set before. -/
lemma verbose_of_letter {c : Char} (nonempty : request.path? ≠ some [])
    (h : request.reading.letter c = .ok later) :
    c = 'v' ∧ request.verbose = false ∧ { request with verbose := true }.reading = later := by
  rw [letter, settled_reading nonempty] at h
  unfold Flag.ofLetter? at h
  split at h
  · cases h
  · next flag known =>
    obtain ⟨rfl, -⟩ | ⟨rfl, unset, same⟩ := raise_eq_ok_iff.mp h
    · split at known <;> cases known
    · split at known <;> cases known
      exact ⟨rfl, unset, same⟩

/-- Short flags go on only if there is one, since a second one could be no other. -/
lemma verbose_of_letters {first : Char} {others : Text} (nonempty : request.path? ≠ some [])
    (h : (first :: others).foldlM letter request.reading = .ok later) :
    first = 'v' ∧ others = [] ∧ request.verbose = false ∧
      { request with verbose := true }.reading = later := by
  rw [List.foldlM_cons] at h
  obtain ⟨middle, one, rest⟩ := bind_eq_ok_iff.mp h
  obtain ⟨rfl, unset, rfl⟩ := verbose_of_letter nonempty one
  cases others with
  | nil => exact ⟨rfl, rfl, unset, Except.ok.inj rest⟩
  | cons second others =>
    rw [List.foldlM_cons] at rest
    obtain ⟨_, two, -⟩ := bind_eq_ok_iff.mp rest
    have kept : { request with verbose := true }.path? ≠ some [] := nonempty
    obtain ⟨-, twice, -⟩ := verbose_of_letter kept two
    cases twice

/-- **What goes on from a request** is a spelling of one part, or the name of an option that lacks
its value, or an empty path. -/
lemma adds_of_next (nonempty : request.path? ≠ some []) (spelled : argument.IsSpelled word)
    (h : request.reading.next argument = .ok later) :
    (∃ other, Adds request [word] other ∧ later = other.reading) ∨
      (word = "--ext".toList ∧ later = request.awaiting) ∨ later.path? = some [] := by
  have settled := settled_reading nonempty
  cases spelled with
  | flag flag value? =>
    cases value? with
    | some value => cases h
    | none =>
      rw [next, settled] at h
      obtain ⟨rfl, unset, rfl⟩ | ⟨rfl, unset, rfl⟩ := raise_eq_ok_iff.mp h
      · exact .inl ⟨_, .noIgnore unset, rfl⟩
      · exact .inl ⟨_, .verbose unset (List.mem_pair.mpr (.inr rfl)), rfl⟩
  | extension value? =>
    cases value? with
    | some extension =>
      rw [next, settled] at h
      cases h
      exact .inl ⟨_, .joined request extension, rfl⟩
    | none =>
      rw [next, settled] at h
      cases h
      exact .inr (.inl ⟨rfl, rfl⟩)
  | unknown => cases h
  | letters others _ =>
    obtain ⟨rfl, rfl, unset, rfl⟩ := verbose_of_letters nonempty h
    exact .inl ⟨_, .verbose unset (List.mem_pair.mpr (.inl rfl)), rfl⟩
  | plain plain =>
    rw [next, if_neg (by simp [Request.reading]), place, settled] at h
    split_ifs at h with given
    cases h
    by_cases empty : word = []
    · exact .inr (.inr (congrArg some empty))
    · exact .inl ⟨_, .path (Option.not_isSome_iff_eq_none.mp given) empty plain, rfl⟩

/-! ## Words before a delimiter -/

/-- **What has been read of words without a delimiter**: a request that is begun by them, perhaps
with the name of an option behind it that lacks its value, or an empty path.

**Proof sketch.** Induction on the words, one more at the end. What the word adds to the request
depends on whether a value is missing, and an empty path stays. -/
lemma begun_of_through (h : start.through words = .ok later) :
    (∃ request : Request, request.IsBegunAs words ∧ later = request.reading) ∨
      (∃ (request : Request) (body : List Text), request.IsBegunAs body ∧
        words = body ++ ["--ext".toList] ∧ later = request.awaiting) ∨
      later.path? = some [] := by
  induction words using List.reverseRecOn generalizing later with
  | nil =>
    cases h
    exact .inl ⟨.nothing, .nothing, rfl⟩
  | append_singleton words word ih =>
    rw [through_append] at h
    obtain ⟨reading, before, one⟩ := bind_eq_ok_iff.mp h
    have spelled := Argument.isSpelled_ofText word
    rw [through_singleton spelled] at one
    rcases ih before with ⟨request, begun, rfl⟩ | ⟨request, body, begun, rfl, rfl⟩ | empty
    · rcases adds_of_next begun.path?_ne spelled one with ⟨other, adds, rfl⟩ | ⟨rfl, rfl⟩ | empty
      · exact .inl ⟨other, .more begun adds, rfl⟩
      · exact .inr (.inl ⟨request, words, begun, rfl, rfl⟩)
      · exact .inr (.inr empty)
    · obtain ⟨other, adds, rfl⟩ := adds_of_next_awaiting spelled one
      refine .inl ⟨other, ?_, rfl⟩
      rw [List.append_assoc]
      exact .more begun adds
    · exact .inr (.inr (path?_of_next empty spelled one))

/-! ## Words behind a delimiter -/

/-- A word is placed as the path if there is none and no value is missing. -/
lemma place_eq_ok_iff {path : Text} :
    reading.place path = .ok later ↔
      reading.path? = none ∧ reading.awaitsExtension = false ∧
        { reading with path? := some path } = later := by
  unfold place settled
  cases unset : reading.path? with
  | some _ => simp
  | none => cases given : reading.awaitsExtension <;> simp [Except.map, given]

/-- At most one word stands behind a delimiter, and it is the path. -/
lemma place_cases {places : List Text} (h : places.foldlM place reading = .ok later) :
    (places = [] ∧ reading = later) ∨
      ∃ path, places = [path] ∧ reading.path? = none ∧ reading.awaitsExtension = false ∧
        { reading with path? := some path } = later := by
  cases places with
  | nil => exact .inl ⟨rfl, Except.ok.inj h⟩
  | cons path others =>
    rw [List.foldlM_cons] at h
    obtain ⟨middle, one, rest⟩ := bind_eq_ok_iff.mp h
    obtain ⟨unset, given, rfl⟩ := place_eq_ok_iff.mp one
    cases others with
    | nil => exact .inr ⟨path, rfl, unset, given, Except.ok.inj rest⟩
    | cons second others =>
      rw [List.foldlM_cons] at rest
      obtain ⟨_, two, -⟩ := bind_eq_ok_iff.mp rest
      cases (place_eq_ok_iff.mp two).1

end Reading

/-! ## Whole invocations -/

namespace Configuration

/-- **A configuration is read** before and behind a delimiter, if no value is missing then and the
path is not empty. -/
lemma read_append_eq_ok_iff {rest : List Text} {configuration : Configuration}
    (absent : delimiter ∉ words) (h : ∀ word, rest.head? = some word → word = delimiter) :
    read (words ++ rest) = .ok configuration ↔
      ∃ before reading, Reading.start.through words = .ok before ∧
        (rest.drop 1).foldlM Reading.place before = .ok reading ∧
        reading.awaitsExtension = false ∧ reading.path? ≠ some [] ∧
        reading.configuration = configuration := by
  have others : ∀ word ∈ words, decide (word ≠ delimiter) = true := fun word mem =>
    decide_eq_true fun same => absent (same ▸ mem)
  have split : (words ++ rest).takeWhile (· ≠ delimiter) = words ∧
      (words ++ rest).dropWhile (· ≠ delimiter) = rest := by
    rw [List.takeWhile_append_of_pos others, List.dropWhile_append_of_pos others]
    cases rest with
    | nil => simp
    | cons word rest => simp [h word rfl]
  rw [read, split.1, split.2, ← Reading.through]
  simp only [bind_eq_ok_iff, Reading.settled_eq_ok_iff]
  constructor
  · rintro ⟨before, read, _, placed, reading, ⟨rfl, given, nonempty⟩, same⟩
    exact ⟨before, reading, read, placed, given, nonempty, Except.ok.inj same⟩
  · rintro ⟨before, reading, read, placed, given, nonempty, rfl⟩
    exact ⟨before, read, reading, placed, reading, ⟨rfl, given, nonempty⟩, rfl⟩

/-- Every invocation consists of words without a delimiter, and perhaps a delimiter and what stands
behind it. -/
lemma exists_eq_append (arguments : List Text) :
    ∃ words rest, arguments = words ++ rest ∧ delimiter ∉ words ∧
      ∀ word, rest.head? = some word → word = delimiter := by
  by_cases h : delimiter ∈ arguments
  · obtain ⟨words, places, rfl, absent⟩ := List.eq_append_cons_of_mem h
    exact ⟨words, delimiter :: places, rfl, absent, fun word first => (Option.some.inj first).symm⟩
  · exact ⟨arguments, [], (List.append_nil arguments).symm, h, nofun⟩

end Configuration

namespace Request

variable {arguments : List Text} {configuration : Configuration}

/-- A request that is begun is read. -/
lemma IsBegunAs.through_start (begun : request.IsBegunAs words) :
    Reading.start.through words = .ok request.reading := by
  induction begun with
  | nothing => rfl
  | more begun adds ih =>
    rw [Reading.through_append, ih]
    exact Reading.through_of_adds adds begun.path?_ne

/-- A request is read in all ways in which it is written. -/
lemma IsWrittenAs.read_eq_ok (h : request.IsWrittenAs arguments) :
    Configuration.read arguments = .ok request.configuration := by
  rw [← configuration_reading]
  cases h with
  | unclosed begun =>
    rw [← List.append_nil arguments,
      Configuration.read_append_eq_ok_iff begun.notMem_delimiter (by simp)]
    exact ⟨_, _, begun.through_start, rfl, rfl, begun.path?_ne, rfl⟩
  | closed begun =>
    rw [Configuration.read_append_eq_ok_iff begun.notMem_delimiter (by simp)]
    exact ⟨_, _, begun.through_start, rfl, rfl, begun.path?_ne, rfl⟩
  | @placed request _ path begun unset nonempty =>
    have placed : [path].foldlM Reading.place request.reading =
        .ok { request with path? := some path }.reading := by
      rw [List.foldlM_cons, Reading.place_eq_ok_iff.mpr ⟨unset, rfl, rfl⟩]
      rfl
    rw [Configuration.read_append_eq_ok_iff begun.notMem_delimiter (by simp)]
    exact ⟨_, _, begun.through_start, placed, rfl, fun same => nonempty (Option.some.inj same), rfl⟩

/-- Whatever is read has been written. -/
lemma exists_isWrittenAs (h : Configuration.read arguments = .ok configuration) :
    ∃ request : Request, request.IsWrittenAs arguments ∧ request.configuration = configuration := by
  obtain ⟨words, rest, rfl, absent, first⟩ := Configuration.exists_eq_append arguments
  obtain ⟨before, reading, through, placed, given, nonempty, rfl⟩ :=
    (Configuration.read_append_eq_ok_iff absent first).mp h
  rcases Reading.begun_of_through through with
    ⟨request, begun, rfl⟩ | ⟨request, body, -, -, rfl⟩ | empty
  · rcases Reading.place_cases placed with ⟨none, rfl⟩ | ⟨path, one, unset, -, rfl⟩
    · refine ⟨request, ?_, (configuration_reading request).symm⟩
      cases rest with
      | nil =>
        rw [List.append_nil]
        exact .unclosed begun
      | cons word places =>
        obtain rfl := first word rfl
        obtain rfl : places = [] := none
        exact .closed begun
    · refine ⟨{ request with path? := some path }, ?_, (configuration_reading _).symm⟩
      cases rest with
      | nil => cases one
      | cons word places =>
        obtain rfl := first word rfl
        obtain rfl : places = [path] := one
        exact .placed begun unset fun empty => nonempty (congrArg some empty)
  · -- a value is missing, and no word behind a delimiter could be one
    rcases Reading.place_cases placed with ⟨-, rfl⟩ | ⟨path, -, -, complete, rfl⟩
    · cases given
    · cases complete
  · -- the path is empty, and no other one can be placed
    rcases Reading.place_cases placed with ⟨-, rfl⟩ | ⟨path, -, unset, -, rfl⟩
    · exact absurd empty nonempty
    · rw [empty] at unset
      cases unset

end Request

/-! ## What an invocation searches for -/

/-- What is left of an extension when the dots that it begins with are dropped. -/
def IsWithoutDots (bare extension : Text) : Prop :=
  ∃ n, extension = List.replicate n '.' ++ bare ∧ bare.head? ≠ some '.'

/-- An extension begins with some dots, which are dropped. -/
lemma isWithoutDots_dropWhile (extension : Text) :
    IsWithoutDots (extension.dropWhile (· = '.')) extension := by
  have dots : extension.takeWhile (· = '.') =
      List.replicate (extension.takeWhile (· = '.')).length '.' :=
    List.eq_replicate_of_mem fun c mem => by simpa using List.mem_takeWhile_imp mem
  refine ⟨(extension.takeWhile (· = '.')).length, ?_, fun first => ?_⟩
  · rw [← dots, List.takeWhile_append_dropWhile]
  · have other := List.head?_dropWhile_not (fun c : Char => decide (c = '.')) extension
    rw [first] at other
    cases other

/-- The search looks for the extensions of its configuration, in their order. -/
lemma Configuration.forall₂_search (configuration : Configuration) :
    List.Forall₂ IsWithoutDots configuration.search.extensions configuration.extensions := by
  rw [search, List.forall₂_map_left_iff, List.forall₂_same]
  exact fun extension _ => isWithoutDots_dropWhile extension

/-- The program runs alike for configurations with the same path and the same search. -/
lemma Program.run_congr {arguments others : List Text} {configuration other : Configuration}
    (read : Configuration.read arguments = .ok configuration)
    (readOther : Configuration.read others = .ok other) (path : configuration.path = other.path)
    (search : configuration.search = other.search) (fs : FileSystem) (input : List UInt8) :
    run fs arguments input = run fs others input := by
  simp only [run, read, readOther, path, search]

/-- **Exactly the written requests are read**, each as the configuration that is wanted. The
extensions are looked for in the order in which they are written, without the dots that they begin
with, and no directory is passed over if that was wanted. All ways to write the same extensions in
the same order, the same path and the same wish to pass over no directory run alike, whether or not
the progress is reported. -/
theorem read_eq_ok_iff_isWrittenAs (arguments : List Text) :
    (∀ configuration, Configuration.read arguments = .ok configuration ↔
      ∃ request : Request, request.IsWrittenAs arguments ∧ request.configuration = configuration) ∧
      ∀ request : Request, request.IsWrittenAs arguments →
        Configuration.read arguments = .ok request.configuration ∧
          List.Forall₂ IsWithoutDots request.configuration.search.extensions
            request.configuration.extensions ∧
          request.configuration.search.includeIgnored = request.noIgnore ∧
          ∀ (other : Request) (others : List Text), other.IsWrittenAs others →
            other.extensions = request.extensions → other.path? = request.path? →
              other.noIgnore = request.noIgnore → ∀ (fs : FileSystem) (input : List UInt8),
                Program.run fs others input = Program.run fs arguments input := by
  refine ⟨fun configuration => ⟨Request.exists_isWrittenAs, ?_⟩, fun request written => ?_⟩
  · rintro ⟨request, written, rfl⟩
    exact written.read_eq_ok
  · refine ⟨written.read_eq_ok, request.configuration.forall₂_search, rfl, ?_⟩
    intro other others otherWritten extensions path noIgnore
    refine Program.run_congr otherWritten.read_eq_ok written.read_eq_ok ?_ ?_
    · simp only [Request.configuration, path]
    · simp only [Configuration.search, Request.configuration, extensions, noIgnore]

/-- A lone dash is an extension, other dashes are joined to the option, and behind the delimiter the
path may begin with one. Without the report of the progress the program runs alike. -/
theorem read_eq_ok_iff_isWrittenAs_dashes :
    let request : Request :=
      ⟨["-".toList, "-v".toList, "..ts".toList], some "-x".toList, true, true⟩
    let arguments :=
      ["-v", "--ext", "-", "--no-ignore", "--ext=-v", "--ext", "..ts", "--", "-x"].map String.toList
    let others := ["--ext=-", "--ext=-v", "--ext=..ts", "--no-ignore", "--", "-x"].map String.toList
    request.IsWrittenAs arguments ∧ { request with verbose := false }.IsWrittenAs others ∧
      Configuration.read arguments = .ok request.configuration ∧
      request.configuration.search = ⟨["-".toList, "-v".toList, "ts".toList], true⟩ ∧
      ∀ (fs : FileSystem) (input : List UInt8),
        Program.run fs others input = Program.run fs arguments input := by
  intro request arguments others
  have begun : Request.IsBegunAs { request with path? := none }
      (["-v", "--ext", "-", "--no-ignore", "--ext=-v", "--ext", "..ts"].map String.toList) :=
    .more (.more (.more (.more (.more .nothing
      (.verbose rfl (by decide))) (.apart _ (by decide))) (.noIgnore rfl))
        (.joined _ "-v".toList)) (.apart _ (by decide))
  have begunAlike : Request.IsBegunAs { request with path? := none, verbose := false }
      (["--ext=-", "--ext=-v", "--ext=..ts", "--no-ignore"].map String.toList) :=
    .more (.more (.more (.more .nothing
      (.joined _ "-".toList)) (.joined _ "-v".toList)) (.joined _ "..ts".toList)) (.noIgnore rfl)
  have written : request.IsWrittenAs arguments := .placed begun rfl (by decide)
  have alike : { request with verbose := false }.IsWrittenAs others :=
    .placed begunAlike rfl (by decide)
  obtain ⟨read, -, -, runs⟩ := (read_eq_ok_iff_isWrittenAs arguments).2 request written
  exact ⟨written, alike, read, by decide, runs _ others alike rfl rfl rfl⟩

end Backlog
