import Mathlib.Logic.Relation
import SyntaxGraph.Action

/-!
# Laws of actions

What an action that ends with a value did to the world, part by part. Logging never fails, and
changes nothing but the file that keeps the log.
-/
namespace SyntaxGraph

namespace World

/-- The file that keeps the log, if one does. -/
def logFile? (world : World) : Option Path := world.channel.bind (·.file)

/-- Whether the log is kept in no file, or in one to which a path does not lead. -/
def LogsElsewhere (world : World) (path : Path) : Prop :=
  ∀ file ∈ world.logFile?, world.files.resolve file ≠ world.files.resolve path

/-- A world in which something may have been appended to a file. -/
inductive Appended (file : Option Path) (world : World) : World → Prop
  | nothing : Appended file world world
  | something {path : Path} {bytes : List UInt8} {files : FileSystem} (given : file = some path)
    (done : world.files.append path bytes = .ok files) : Appended file world { world with files }

/-- A world in which lines may have been appended to the log, one after the other. -/
def LogsTo : World → World → Prop :=
  Relation.ReflTransGen fun world after => world.Appended world.logFile? after

theorem LogsTo.eq_of_silent {world after : World} (logged : world.LogsTo after)
    (silent : world.logFile? = none) : after = world := by
  induction logged with
  | refl => rfl
  | tail _ appended ih =>
    subst ih
    cases appended with
    | nothing => rfl
    | something given _ =>
      rw [silent] at given
      cases given

end World

namespace Action

variable {α β : Type} {world after : World} {action first : Action α} {a : α}
  {second : α → Action β} {step : FileSystem → Except Fault FileSystem} {record : LogRecord}

/-- In a world, the action ends with a value and leaves another world. -/
def Gives (action : Action α) (world : World) (a : α) (after : World) : Prop :=
  ∃ trace, action world = (⟨trace, .ok a⟩, after)

/-- In a world, the action ends in some way and leaves another world. -/
def Ends (action : Action α) (world : World) (result : Except Fault α) (after : World) : Prop :=
  ∃ trace, action world = (⟨trace, result⟩, after)

theorem ends_self (action : Action α) (world : World) :
    action.Ends world (action world).1.result (action world).2 :=
  ⟨(action world).1.trace, rfl⟩

theorem Ends.result {result : Except Fault α} (ended : action.Ends world result after) :
    (action world).1.result = result := by
  obtain ⟨trace, ran⟩ := ended
  rw [ran]

theorem Gives.result (given : action.Gives world a after) : (action world).1.result = .ok a :=
  Ends.result given

theorem gives_of_result (ended : (action world).1.result = .ok a) :
    action.Gives world a (action world).2 :=
  ⟨(action world).1.trace, by rw [← ended]⟩

/-! ### Sequences -/

/-- A sequence ends as its first part fails, or as its second part ends behind the first. -/
theorem ends_bind_iff {result : Except Fault β} :
    (first >>= second).Ends world result after ↔
      (∃ fault, first.Ends world (.error fault) after ∧ result = .error fault) ∨
      ∃ a between, first.Gives world a between ∧ (second a).Ends between result after := by
  rcases begun : first world with ⟨⟨trace, _ | a⟩, between⟩
  next fault =>
    rw [Ends, bind_of_error second begun]
    constructor
    · rintro ⟨_, ran⟩
      cases ran
      exact .inl ⟨fault, ⟨trace, begun⟩, rfl⟩
    · rintro (⟨_, ⟨_, ran⟩, rfl⟩ | ⟨_, _, ⟨_, ran⟩, -⟩)
      · rw [begun] at ran
        cases ran
        exact ⟨_, rfl⟩
      · rw [begun] at ran
        cases ran
  next =>
    rw [Ends, bind_of_ok second begun]
    constructor
    · rintro ⟨_, ran⟩
      cases ran
      exact .inr ⟨a, between, ⟨trace, begun⟩, ends_self _ _⟩
    · rintro (⟨_, ⟨_, ran⟩, -⟩ | ⟨_, _, ⟨_, ran⟩, ⟨_, ended⟩⟩)
      · rw [begun] at ran
        cases ran
      · rw [begun] at ran
        cases ran
        rw [ended]
        exact ⟨_, rfl⟩

/-- What a sequence does is what its parts do, one after the other. -/
theorem gives_bind_iff {b : β} :
    (first >>= second).Gives world b after ↔
      ∃ a between, first.Gives world a between ∧ (second a).Gives between b after := by
  refine ends_bind_iff.trans ⟨?_, .inr⟩
  rintro (⟨_, -, ended⟩ | found)
  · cases ended
  · exact found

theorem gives_pure_iff {b : α} :
    (pure a : Action α).Gives world b after ↔ a = b ∧ world = after := by
  constructor
  · rintro ⟨trace, ran⟩
    cases ran
    exact ⟨rfl, rfl⟩
  · rintro ⟨rfl, rfl⟩
    exact ⟨[], rfl⟩

theorem ends_ofExcept_iff {result ended : Except Fault α} :
    (ofExcept result).Ends world ended after ↔ result = ended ∧ world = after := by
  constructor
  · rintro ⟨trace, ran⟩
    cases ran
    exact ⟨rfl, rfl⟩
  · rintro ⟨rfl, rfl⟩
    exact ⟨[], rfl⟩

theorem gives_ofExcept_iff {result : Except Fault α} :
    (ofExcept result).Gives world a after ↔ result = .ok a ∧ world = after :=
  ends_ofExcept_iff

theorem gives_attempt_iff {result : Except Fault α} :
    action.attempt.Gives world result after ↔ action.Ends world result after := by
  constructor
  · rintro ⟨trace, ran⟩
    cases ran
    exact ends_self action world
  · rintro ⟨trace, ran⟩
    refine ⟨trace, ?_⟩
    rw [attempt, ran]

theorem ofExcept_ok_bind (a : α) (second : α → Action β) :
    (ofExcept (.ok a) >>= second) = second a := rfl

/-! ### Files -/

theorem gives_change_iff {u : Unit} :
    (change step).Gives world u after ↔
      ∃ files, step world.files = .ok files ∧ after = { world with files } := by
  constructor
  · rintro ⟨trace, ran⟩
    unfold change at ran
    split at ran <;> cases ran
    next files done => exact ⟨files, done, rfl⟩
  · rintro ⟨files, done, rfl⟩
    rw [Gives, change, done]
    exact ⟨[], rfl⟩

theorem fails_change {fault : Fault} (ended : (change step).Ends world (.error fault) after) :
    step world.files = .error fault := by
  obtain ⟨trace, ran⟩ := ended
  unfold change at ran
  split at ran <;> cases ran
  assumption

theorem appended_appendFile (path : Path) (text : String) (world : World) :
    world.Appended (some path) (appendFile path text world).2 := by
  unfold appendFile change
  dsimp only
  cases done : world.files.append path (Text.encodeUtf8 text) with
  | error fault => exact .nothing
  | ok files => exact .something rfl done

/-! ### Logging -/

/-- A line that is shown is at most appended to the file of the channel. -/
theorem exists_showOn (channel : Channel) (line : List Text.CodePoint) (world : World) :
    ∃ after, (showOn channel line).Gives world () after ∧ world.Appended channel.file after := by
  unfold showOn Gives
  cases channel.file with
  | none => exact ⟨world, ⟨_, rfl⟩, .nothing⟩
  | some file =>
    cases Text.ofCodePoints? line with
    | none => exact ⟨world, ⟨_, rfl⟩, .nothing⟩
    | some text => exact ⟨_, ⟨_, rfl⟩, appended_appendFile file (text ++ "\n") world⟩

/-- Logging never fails, and appends at most to the file that keeps the log. -/
theorem exists_log (record : LogRecord) (world : World) :
    ∃ after, (log record).Gives world () after ∧ world.Appended world.logFile? after := by
  obtain ⟨files, shown?⟩ := world
  cases shown? with
  | none => exact ⟨_, ⟨_, rfl⟩, .nothing⟩
  | some channel =>
    -- Behind the event and the look at the channel, the channel decides.
    have begun {second : Option Channel → Action Unit} {after : World}
        (given : (second (some channel)).Gives ⟨files, some channel⟩ () after) :
        (emit (.log record) >>= fun _ => Action.channel >>= second).Gives
          ⟨files, some channel⟩ () after :=
      gives_bind_iff.2 ⟨(), _, ⟨_, rfl⟩, gives_bind_iff.2 ⟨some channel, _, ⟨_, rfl⟩, given⟩⟩
    cases shown : channel.shown record with
    | hidden =>
      refine ⟨⟨files, some channel⟩, begun ?_, .nothing⟩
      simp only [shown]
      exact ⟨_, rfl⟩
    | line line =>
      obtain ⟨after, given, appended⟩ := exists_showOn channel line ⟨files, some channel⟩
      refine ⟨after, begun ?_, appended⟩
      simpa only [shown] using given
    | unfit =>
      refine ⟨⟨files, some channel⟩, begun ?_, .nothing⟩
      simp only [shown]
      exact ⟨_, rfl⟩

theorem ends_log {result : Except Fault Unit} (ended : (log record).Ends world result after) :
    result = .ok () ∧ world.Appended world.logFile? after := by
  obtain ⟨other, ⟨trace, ran⟩, appended⟩ := exists_log record world
  obtain ⟨trace', same⟩ := ended
  rw [ran] at same
  cases same
  exact ⟨rfl, appended⟩

theorem appended_of_log {u : Unit} (given : (log record).Gives world u after) :
    world.Appended world.logFile? after :=
  (ends_log given).2

theorem ends_forEach_log {records : List LogRecord} {result : Except Fault Unit}
    (ended : (forEach log records).Ends world result after) :
    result = .ok () ∧ world.LogsTo after := by
  induction records generalizing world with
  | nil =>
    obtain ⟨_, ran⟩ := ended
    cases ran
    exact ⟨rfl, .refl⟩
  | cons record rest ih =>
    obtain ⟨fault, failed, -⟩ | ⟨_, between, logged, ended⟩ := ends_bind_iff.1 ended
    · cases (ends_log failed).1
    · obtain ⟨done, later⟩ := ih ended
      exact ⟨done, .head (appended_of_log logged) later⟩

/-- A computation that logs ends as it does outside the world, and only the log is appended to. -/
theorem ends_ofLogged {run : Traced LogRecord Fault α} {result : Except Fault α}
    (ended : (ofLogged run).Ends world result after) :
    result = run.result ∧ world.LogsTo after := by
  obtain ⟨fault, failed, -⟩ | ⟨_, between, logged, ended⟩ := ends_bind_iff.1 ended
  · cases (ends_forEach_log failed).1
  · obtain ⟨rfl, rfl⟩ := ends_ofExcept_iff.1 ended
    exact ⟨rfl, (ends_forEach_log logged).2⟩

end Action

end SyntaxGraph
