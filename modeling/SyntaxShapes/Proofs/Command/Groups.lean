import SyntaxShapes.Command.Arguments

/-!
# `SyntaxShapes.Proofs.Command.Groups` — words that belong together

A command line is made of groups of words: the path, a flag, an option with its value, which stands in a word of its
own or behind `=`. The reader examines a value only when the next word starts something new, so between two groups
it is one group behind. What it does to the words of a group can still be said in one step: it settles what is
pending, and then takes the group up (`foldlM_step_words`). And if it settles after that, it has entered the group
in a settled state (`takeUp_bind_settle`), which fails only for what has been given already.

## Contents
- **Groups.** `Flag`, `Spelling`, `Group`, `Group.words`; `Single`, `IsPath`.
- **Words.** `ofText_of_isPath`, `ofText_option`, `ofText_option_joined`.
- **States.** `State.IsOpen`, `State.of_settle`; `State.given`, `State.raise`.
- **One group.** `Group.takeUp`, `foldlM_step_words`; `Group.put`, `takeUp_bind_settle`; `isOpen_of_takeUp`.
-/

namespace SyntaxShapes.Command

/-! ## Groups -/

/-- The flags that may be given once. -/
inductive Flag
  | all | summary | noColour
  deriving DecidableEq, Repr

/-- Where the value of an option stands: in the next word, or behind `=`. -/
inductive Spelling
  | apart | joined
  deriving DecidableEq, Repr

/-- Some words of a command line that belong together. -/
inductive Group
  | input (path : String)
  | format (spelling : Spelling) (format : OutputFormat)
  | only (spelling : Spelling) (shape : Shape)
  | flag (flag : Flag)
  deriving DecidableEq, Repr

/-- The word of a flag. -/
def Flag.word : Flag → String
  | .all => "--all"
  | .summary => "--summary"
  | .noColour => "--no-color"

/-- The option that a flag is. -/
def Flag.switch : Flag → Switch
  | .all => .all
  | .summary => .summary
  | .noColour => .noColour

/-- The word that names an option with a value. -/
def ValueOption.word : ValueOption → String
  | .format => "--format"
  | .only => "--only"

/-- The word for a format. -/
def OutputFormat.word : OutputFormat → String
  | .text => "text"
  | .json => "json"

/-- The words of an option and its value. -/
def Spelling.words (o : ValueOption) (value : String) : Spelling → List String
  | .apart => [o.word, value]
  | .joined => [o.word ++ "=" ++ value]

namespace Group

/-- The words of a group. -/
def words : Group → List String
  | .input path => [path]
  | .format spelling f => spelling.words .format f.word
  | .only spelling s => spelling.words .only s.name
  | .flag f => [f.word]

/-- The path that a group gives. -/
def input? : Group → Option String
  | .input path => some path
  | _ => none

/-- The format that a group gives. -/
def format? : Group → Option OutputFormat
  | .format _ f => some f
  | _ => none

/-- The shape that a group gives. -/
def only? : Group → Option Shape
  | .only _ s => some s
  | _ => none

/-- The flag that a group gives. -/
def flag? : Group → Option Flag
  | .flag f => some f
  | _ => none

end Group

/-- What may be given once, apart from the path. -/
inductive Single
  | format
  | flag (flag : Flag)
  deriving DecidableEq, Repr

/-- What a group gives that may be given once, if it gives such a thing. -/
def Group.single? : Group → Option Single
  | .format _ _ => some .format
  | .flag f => some (.flag f)
  | .input _ | .only _ _ => none

/-- Whether a text is taken for a path: it does not begin with a hyphen, unless it is nothing else. -/
def IsPath (path : String) : Prop := path ≠ "" ∧ (path.toList.head? ≠ some '-' ∨ path = "-")

/-! ## Words -/

/-- A path is a plain word. -/
theorem ofText_of_isPath {path : String} (h : IsPath path) : Word.ofText path = .plain path := by
  obtain ⟨-, hhead | rfl⟩ := h
  · unfold Word.ofText
    split
    all_goals simp_all
  · rfl

theorem ofText_formatWord (f : OutputFormat) : Word.ofText f.word = .plain f.word := by
  cases f
  all_goals decide

theorem ofText_shapeName (s : Shape) : Word.ofText s.name = .plain s.name := by
  cases s
  all_goals decide +kernel

theorem ofText_flag (f : Flag) : Word.ofText f.word = .switch f.switch := by
  cases f
  all_goals decide

theorem ofText_option (o : ValueOption) : Word.ofText o.word = .option o := by
  cases o
  all_goals decide

theorem ofText_option_joined (o : ValueOption) (value : String) :
    Word.ofText (o.word ++ "=" ++ value) = .optionWithValue o value := by
  cases o
  all_goals simp [ValueOption.word, Word.ofText, Word.ofLong, Switch.ofName?, ValueOption.ofName?]

/-! ## States -/

namespace State

variable {s t : State}

/-- Whether the reader stands between two groups. -/
structure IsOpen (s : State) : Prop where
  /-- Not every word is a path. -/
  escaped : s.escaped = false
  /-- No option waits for its value. -/
  awaiting : ∀ o, s.pending? ≠ some (.awaiting o)

/-- Setting an option touches nothing that decides how the next word is read. -/
theorem of_setOption {o : ValueOption} {value : String} (h : s.setOption o value = .ok t) :
    t.pending? = s.pending? ∧ t.escaped = s.escaped ∧ t.inputSeen = s.inputSeen := by
  unfold setOption at h
  split at h
  · split at h
    · cases h
    · split at h
      · obtain rfl := Except.ok.inj h
        exact ⟨rfl, rfl, rfl⟩
      · cases h
  · split at h
    · obtain rfl := Except.ok.inj h
      exact ⟨rfl, rfl, rfl⟩
    · cases h

/-- What is settled is no longer pending, and the reader stands where it stood. -/
theorem of_settle (h : s.settle = .ok t) :
    t.pending? = none ∧ t.escaped = s.escaped ∧ t.inputSeen = s.inputSeen := by
  unfold settle at h
  split at h
  · obtain rfl := Except.ok.inj h
    exact ⟨rfl, rfl, rfl⟩
  · cases h
  · exact of_setOption h
  · split at h
    · cases h
    · obtain rfl := Except.ok.inj h
      exact ⟨rfl, rfl, rfl⟩

theorem settle_eq_self (h : s.pending? = none) : s.settle = .ok s := by
  unfold settle
  rw [h]
  exact congrArg _ (by rw [← h])

/-- Whether a flag has been given. -/
def has (s : State) : Flag → Bool
  | .all => s.all
  | .summary => s.summary
  | .noColour => s.noColour

/-- The state after a flag. -/
def raise (s : State) : Flag → State
  | .all => { s with all := true }
  | .summary => { s with summary := true }
  | .noColour => { s with noColour := true }

/-- Whether something that may be given once has been given. -/
def given (s : State) : Single → Bool
  | .format => s.format?.isSome
  | .flag f => s.has f

/-- A flag can be raised once. -/
theorem setSwitch_switch (s : State) (f : Flag) :
    s.setSwitch f.switch = if s.has f then .error .repeated else .ok (s.raise f) := by
  cases f <;> rfl

theorem of_setSwitch {f : Flag} (h : s.setSwitch f.switch = .ok t) :
    t.pending? = s.pending? ∧ t.escaped = s.escaped ∧ t.inputSeen = s.inputSeen := by
  rw [setSwitch_switch] at h
  split at h
  · cases h
  · obtain rfl := Except.ok.inj h
    cases f <;> exact ⟨rfl, rfl, rfl⟩

/-- A format can be chosen once. -/
theorem setOption_format (s : State) (f : OutputFormat) :
    s.setOption .format f.word = if s.format?.isSome then .error .repeated else .ok { s with format? := some f } := by
  cases f <;> rfl

/-- Shapes to keep can be added again and again. -/
theorem setOption_only (s : State) (shape : Shape) :
    s.setOption .only shape.name = .ok { s with only := s.only ++ [shape] } := by
  unfold setOption
  rw [Shape.ofText_eq_ok_iff.mpr rfl]

end State

/-! ## One group -/

/-- What a settled state becomes by an option and its value. A value in its own word stays pending. -/
def Spelling.takeUp (o : ValueOption) (value : String) (t : State) : Spelling → Except Rejection State
  | .apart => .ok { t with pending? := some (.option o value) }
  | .joined => t.setOption o value

namespace Group

/-- What a settled state becomes by a group. A path, or a value in its own word, stays pending. -/
def takeUp (t : State) : Group → Except Rejection State
  | .input path => .ok { t with pending? := some (.input path), inputSeen := true }
  | .format spelling f => spelling.takeUp .format f.word t
  | .only spelling s => spelling.takeUp .only s.name t
  | .flag f => t.setSwitch f.switch

/-- What a settled state becomes by a group, with all values examined. -/
def enter (t : State) : Group → State
  | .input path => { t with input? := some path, inputSeen := true }
  | .format _ f => { t with format? := some f }
  | .only _ s => { t with only := t.only ++ [s] }
  | .flag f => t.raise f

/-- Enters a group, unless it gives what may be given once and has been given. -/
def put (t : State) (g : Group) : Except Rejection State :=
  if g.single?.any t.given then .error .repeated else .ok (g.enter t)

end Group

section

variable {s t : State} {g : Group}

theorem step_eq (hs : s.escaped = false) (text : String) : s.step text = s.takeWord (.ofText text) := by
  unfold State.step
  rw [hs]
  rfl

/-- The words of an option, in either spelling, settle what was pending and take up the option. -/
theorem foldlM_step_option (hs : s.escaped = false) (spelling : Spelling) {o : ValueOption} {value : String}
    (hvalue : Word.ofText value = .plain value) :
    (spelling.words o value).foldlM State.step s = s.settle >>= fun t => spelling.takeUp o value t := by
  cases spelling with
  | apart =>
      rw [Spelling.words, List.foldlM_cons, step_eq hs, ofText_option, State.takeWord]
      cases hsettle : s.settle with
      | error e => rfl
      | ok t =>
          have ht := (State.of_settle hsettle).2.1.trans hs
          show State.step { t with pending? := some (.awaiting o) } value >>= pure = _
          rw [step_eq (s := { t with pending? := some (.awaiting o) }) ht, hvalue]
          rfl
  | joined =>
      rw [Spelling.words, List.foldlM_cons, step_eq hs, ofText_option_joined, State.takeWord]
      exact bind_pure _

theorem foldlM_step_input (hs : s.IsOpen) (hseen : s.inputSeen = false) {path : String} (hpath : IsPath path) :
    [path].foldlM State.step s =
      s.settle >>= fun t => .ok { t with pending? := some (.input path), inputSeen := true } := by
  have htake : s.takeWord (.plain path) = s.takeInput path := by
    unfold State.takeWord
    dsimp only
    split
    · rename_i o ho
      exact absurd ho (hs.awaiting o)
    · rfl
  rw [List.foldlM_cons, step_eq hs.escaped, ofText_of_isPath hpath, htake, State.takeInput, hseen]
  exact bind_pure _

/-- **The words of a group settle what is pending and take the group up.** -/
theorem foldlM_step_words (hs : s.IsOpen) (hpath : ∀ path, g.input? = some path → IsPath path ∧ s.inputSeen = false) :
    g.words.foldlM State.step s = s.settle >>= fun t => g.takeUp t := by
  cases g with
  | input path =>
      obtain ⟨hp, hseen⟩ := hpath path rfl
      exact foldlM_step_input hs hseen hp
  | format spelling f => exact foldlM_step_option hs.escaped spelling (ofText_formatWord f)
  | only spelling shape => exact foldlM_step_option hs.escaped spelling (ofText_shapeName shape)
  | flag f =>
      show [f.word].foldlM State.step s = _
      rw [List.foldlM_cons, step_eq hs.escaped, ofText_flag, State.takeWord]
      exact bind_pure _

/-- Settling changes nothing after steps that leave nothing pending. -/
theorem bind_settle_eq_self {x : Except Rejection State} (hx : ∀ t, x = .ok t → t.pending? = none) :
    x >>= State.settle = x := by
  cases x with
  | error e => rfl
  | ok t => exact State.settle_eq_self (hx t rfl)

/-- A value that was pending is examined as it would have been at once. -/
theorem takeUp_option_bind_settle (ht : t.pending? = none) (spelling : Spelling) (o : ValueOption) (value : String) :
    spelling.takeUp o value t >>= State.settle = t.setOption o value := by
  cases spelling with
  | apart =>
      have hclear : { t with pending? := none } = t := by rw [← ht]
      show State.setOption { t with pending? := none } o value = _
      rw [hclear]
  | joined => exact bind_settle_eq_self fun t' h => (State.of_setOption h).1.trans ht

/-- What has been taken up is entered when it is settled. -/
theorem takeUp_bind_settle (ht : t.pending? = none) (hpath : ∀ path, g.input? = some path → IsPath path) :
    g.takeUp t >>= State.settle = g.put t := by
  cases g with
  | input path =>
      show (if path = "" then _ else _) = _
      rw [if_neg (hpath path rfl).1, ← ht]
      rfl
  | format spelling f => exact (takeUp_option_bind_settle ht spelling .format f.word).trans (t.setOption_format f)
  | only spelling shape => exact (takeUp_option_bind_settle ht spelling .only shape.name).trans (t.setOption_only shape)
  | flag f =>
      exact (bind_settle_eq_self fun t' h => (State.of_setSwitch h).1.trans ht).trans (t.setSwitch_switch f)

/-- Between groups the reader stands open, and has seen a path if it had or the last group was one. -/
theorem isOpen_of_takeUp (ht : t.pending? = none) (hescaped : t.escaped = false) (h : g.takeUp t = .ok s) :
    s.IsOpen ∧ s.inputSeen = (t.inputSeen || g.input?.isSome) := by
  -- nothing but the path is noted at once, and nothing waits for a value
  have hframe : s.pending? = t.pending? ∧ s.escaped = t.escaped ∧ s.inputSeen = t.inputSeen →
      s.IsOpen ∧ s.inputSeen = (t.inputSeen || false) := by
    rintro ⟨hpending, hescaped', hseen⟩
    rw [Bool.or_false]
    refine ⟨⟨hescaped'.trans hescaped, fun o ho => ?_⟩, hseen⟩
    rw [hpending, ht] at ho
    cases ho
  have hoption : ∀ {spelling : Spelling} {o value}, spelling.takeUp o value t = .ok s →
      s.IsOpen ∧ s.inputSeen = (t.inputSeen || false) := by
    intro spelling o value h
    cases spelling with
    | apart =>
        obtain rfl := Except.ok.inj h
        exact ⟨⟨hescaped, nofun⟩, (Bool.or_false _).symm⟩
    | joined => exact hframe (State.of_setOption h)
  cases g with
  | input path =>
      obtain rfl := Except.ok.inj h
      exact ⟨⟨hescaped, nofun⟩, (Bool.or_true _).symm⟩
  | format spelling f => exact hoption h
  | only spelling shape => exact hoption h
  | flag f => exact hframe (State.of_setSwitch h)

end

end SyntaxShapes.Command
