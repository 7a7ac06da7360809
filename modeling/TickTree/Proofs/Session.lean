import TickTree.Proofs.Doors.Outcome
import TickTree.Program

/-!
# What a run of the program tells

A run of the program ends with an error if the variables are refused, and for no other reason. If
they are accepted, then the tree is evaluated, this ends with a status, and the last record of the
run says which: the agent got in through a door, or it did not get in. What the record says agrees
with what the visit shows, so the case of a success without a door never arises.

## Main definitions

* `NeverAborts`: readers of variables whose errors do not come from a visit
* `Record.entered`, `Record.turnedAway`: the verdicts
* `Session.Announces`: a run has a verdict as its last record and no other one
* `Session.Tells`: the verdict of a run agrees with the visit

## Main results

* `Config.neverAborts_read`: a configuration is refused for what its variables say
* `Program.exists_tells`: an accepted configuration leads to a run that tells how the visit ended
* `session_tells_outcome`: the law for all variables
-/

namespace TickTree

/-! ### Errors of a configuration -/

/-- Reading a configuration never ends with an error of the visit. -/
def NeverAborts {α : Type} (result : Except EntryError α) : Prop :=
  ∀ fault, result ≠ .error (.aborted fault)

namespace NeverAborts

variable {α β : Type}

theorem ok (value : α) : NeverAborts (.ok value) := fun _ => nofun

theorem bind {result : Except EntryError α} {next : α → Except EntryError β}
    (h : NeverAborts result) (hnext : ∀ value, NeverAborts (next value)) :
    NeverAborts (result >>= next) := by
  cases result with
  | error error =>
    intro fault hfault
    apply h fault
    exact congrArg _ (Except.error.inj hfault)
  | ok value => exact hnext value

end NeverAborts

namespace Setting

variable (setting : Setting) (lookup : String → Option String)

theorem outOfRange?_ne_aborted (value : Nat) (fault : Fault) :
    setting.outOfRange? value ≠ some (.aborted fault) := by
  cases setting with
  | doorCount =>
    rw [outOfRange?]
    split <;> simp
  | seed => simp [outOfRange?]
  | chance kind =>
    rw [outOfRange?]
    split <;> simp

theorem neverAborts_read : NeverAborts (setting.read lookup) := by
  unfold read
  split
  · exact .ok none
  · split
    · exact fun _ => nofun
    · next value _ =>
      split
      · next error herror =>
        intro fault hfault
        obtain rfl := Except.error.inj hfault
        exact setting.outOfRange?_ne_aborted value fault herror
      · exact .ok _

end Setting

namespace Config

variable (lookup : String → Option String)

theorem neverAborts_readChance (kind : ActionKind) : NeverAborts (readChance lookup kind) :=
  ((Setting.chance kind).neverAborts_read lookup).bind fun _ => .ok _

/-- A configuration is refused for what its variables say, and not for what a visit does. -/
theorem neverAborts_read : NeverAborts (read lookup) := by
  unfold read
  apply (Setting.doorCount.neverAborts_read lookup).bind
  intro doorCount
  apply (Setting.seed.neverAborts_read lookup).bind
  intro seed
  apply (neverAborts_readChance lookup .walkTo).bind
  intro walkTo
  apply (neverAborts_readChance lookup .opening).bind
  intro opening
  apply (neverAborts_readChance lookup .unlocking).bind
  intro unlocking
  apply (neverAborts_readChance lookup .smashing).bind
  intro smashing
  apply (neverAborts_readChance lookup .walkThrough).bind
  intro walkThrough
  apply (neverAborts_readChance lookup .closing).bind
  intro closing
  exact .ok _

end Config

/-! ### The verdict of the program -/

namespace Record

/-- The verdict that the agent got in through door `k`. -/
def entered (k : Nat) : Record :=
  ⟨.info, "door_scenario", "made it into the building through door #" ++ toString k,
    [("door", .plain (toString k))]⟩

/-- The verdict that the agent did not get in. -/
def turnedAway : Record := ⟨.info, "door_scenario", "failed to enter the building", []⟩

/-- The program itself gives information, and not one of its parts. -/
def isVerdict (r : Record) : Bool := r.level = .info && r.target = "door_scenario"

end Record

/-- The last record of a run is its only verdict. -/
def Session.Announces (run : Session) (verdict : Record) : Prop :=
  (∃ front, run.reports.map Report.toRecord = front ++ [verdict]) ∧
    (run.reports.map Report.toRecord).filter Record.isVerdict = [verdict]

theorem Session.Announces.unique {run : Session} {verdict verdict' : Record}
    (h : run.Announces verdict) (h' : run.Announces verdict') : verdict = verdict' := by
  have hlists : [verdict] = [verdict'] := h.2.symm.trans h'.2
  exact (List.cons.inj hlists).1

theorem Report.toRecord_entered (k : Nat) : (entered ⟨k⟩).toRecord = Record.entered k := by
  have htext : "made it into the building through " ++ ("door #" ++ toString k) =
      "made it into the building through door #" ++ toString k := by
    rw [← String.append_assoc]
    rfl
  change (⟨_, _, "made it into the building through " ++ ("door #" ++ toString k), _⟩ : Record) = _
  rw [htext]
  rfl

theorem Event.isVerdict_toRecord (event : Event DoorNote) : event.toRecord.isVerdict = false := by
  cases event with
  | note what =>
    cases what with
    | moved transfer => cases transfer <;> rfl
    | acted action door succeeded => rfl
  | reseeded seed => rfl
  | repeaterCancelled iterations => rfl
  | untilFailCancelled successes => rfl
  | untilFailFinished successes => rfl
  | evaluated status => rfl

/-- Before its conclusion a run reports the configuration and what happens during the visit. -/
theorem Session.announces_conclusion (config : Config) (events : List (Event DoorNote))
    {report : Report} {verdict : Record} (hreport : report.toRecord = verdict)
    (hverdict : verdict.isVerdict = true) :
    Announces ⟨.configured config :: events.map .visit ++ [report], none⟩ verdict := by
  -- The report on the configuration is for debugging, and those on the visit are by its parts.
  have hconfig : (Report.configured config).toRecord.isVerdict = false := rfl
  have hevents : ∀ event ∈ events, (Report.visit event).toRecord.isVerdict = false :=
    fun event _ => event.isVerdict_toRecord
  constructor
  · exact ⟨(Report.configured config :: events.map .visit).map Report.toRecord, by simp [hreport]⟩
  · simpa [hconfig, hreport, hverdict] using hevents

/-- The number of a door can be read off the verdict that names it. -/
theorem Record.entered_injective {k k' : Nat} (h : entered k = entered k') : k = k' := by
  have hfields := congrArg Record.fields h
  have htext : toString k = toString k' := by simpa [entered] using hfields
  have hdigits : Nat.toDigits 10 k = Nat.toDigits 10 k' := by
    rw [← Nat.toList_repr, ← Nat.toList_repr]
    exact congrArg String.toList htext
  rw [← Nat.ofDigitChars_ten_toDigits (n := k), hdigits, Nat.ofDigitChars_ten_toDigits]

theorem Record.entered_ne_turnedAway (k : Nat) : entered k ≠ turnedAway := by
  intro h
  have hfields := congrArg Record.fields h
  exact nomatch hfields

/-- What a run that was configured tells about the visit, and what the visit shows. -/
structure Session.Tells (run : Session) (config : Config) (entry : Entry) : Prop where
  /-- The run does not end with an error. -/
  noError : run.error = none
  /-- It ends with one of the two verdicts. -/
  verdict : (∃ k, run.Announces (.entered k)) ∨ run.Announces .turnedAway
  /-- The agent is said to have got in exactly if the evaluation of the tree succeeded. -/
  entered_iff : (∃ k, run.Announces (.entered k)) ↔ entry.result = .ok .success
  /-- The agent is said not to have got in exactly if the evaluation of the tree failed. -/
  turnedAway_iff : run.Announces .turnedAway ↔ entry.result = .ok .failure
  /-- The door through which the agent is said to have got in is the one it used, and the last of
  those that it tried. -/
  entered : ∀ k, run.Announces (.entered k) → entry.visit.used = some ⟨k⟩ ∧
    entry.visit.attempted.getLast? = some k ∧ entry.visit.attempted = List.range' 1 k ∧
    1 ≤ k ∧ k ≤ config.doorCount
  /-- If the agent is said not to have got in, then it tried all doors in vain. -/
  turnedAway : run.Announces .turnedAway → entry.visit.used = none ∧ entry.visit.doors = [] ∧
    entry.visit.attempted = List.range' 1 config.doorCount

namespace Session.Tells

variable {run : Session} {config : Config} {entry : Entry}

theorem of_success {k : Nat} (herror : run.error = none) (h : run.Announces (.entered k))
    (hresult : entry.result = .ok .success) (hused : entry.visit.used = some ⟨k⟩)
    (hattempted : entry.visit.attempted = List.range' 1 k) (hpos : 1 ≤ k)
    (hle : k ≤ config.doorCount) : run.Tells config entry := by
  have hnot : ¬ run.Announces .turnedAway := fun h' =>
    Record.entered_ne_turnedAway k (h.unique h')
  have hlast : entry.visit.attempted.getLast? = some k := by
    have hk : k ≠ 0 := by omega
    have hend : 1 + k - 1 = k := by omega
    rw [hattempted, List.getLast?_range', if_neg hk, hend]
  refine ⟨herror, .inl ⟨k, h⟩, ⟨fun _ => hresult, fun _ => ⟨k, h⟩⟩, ?_, ?_, ?_⟩
  · simp [hnot, hresult]
  · intro k' h'
    obtain rfl := Record.entered_injective (h.unique h')
    exact ⟨hused, hlast, hattempted, hpos, hle⟩
  · exact fun h' => absurd h' hnot

theorem of_failure (herror : run.error = none) (h : run.Announces .turnedAway)
    (hresult : entry.result = .ok .failure) (hused : entry.visit.used = none)
    (hdoors : entry.visit.doors = [])
    (hattempted : entry.visit.attempted = List.range' 1 config.doorCount) :
    run.Tells config entry := by
  have hnot (k : Nat) : ¬ run.Announces (.entered k) := fun h' =>
    Record.entered_ne_turnedAway k (h'.unique h)
  refine ⟨herror, .inr h, ?_, ⟨fun _ => hresult, fun _ => h⟩, ?_, ?_⟩
  · simp [hnot, hresult]
  · exact fun k h' => absurd h' (hnot k)
  · exact fun _ => ⟨hused, hdoors, hattempted⟩

end Session.Tells

theorem Program.session_of_ok {lookup : String → Option String} {g : Generator} {config : Config}
    {entry : Entry} {status : Status} (hread : Config.read lookup = .ok config)
    (henter : config.enter g = some entry) (hresult : entry.result = .ok status) :
    session lookup g = some ⟨.configured config :: entry.events.map .visit ++
      [conclusion status entry.visit], none⟩ := by
  rw [session, hread]
  simp only [henter, Option.bind_eq_bind, Option.bind_some, hresult]
  rfl

/-- An accepted configuration leads to a run that tells how the visit ended. -/
theorem Program.exists_tells {lookup : String → Option String} {config : Config}
    (hread : Config.read lookup = .ok config) (g : Generator) :
    ∃ run entry, session lookup g = some run ∧ config.enter g = some entry ∧
      run.Tells config entry := by
  obtain ⟨entry, henter, ⟨hresult, k, hpos, hle, hused, hattempted⟩ |
    ⟨hresult, hused, hdoors, hattempted⟩⟩ := config.enter_outcome g
  · have hconclusion : conclusion .success entry.visit = .entered ⟨k⟩ := by simp [conclusion, hused]
    have hannounces := Session.announces_conclusion config entry.events
      ((congrArg Report.toRecord hconclusion).trans (Report.toRecord_entered k)) rfl
    exact ⟨_, entry, session_of_ok hread henter hresult, henter,
      .of_success rfl hannounces hresult hused hattempted hpos hle⟩
  · have hconclusion : (conclusion .failure entry.visit).toRecord = .turnedAway := rfl
    have hannounces := Session.announces_conclusion config entry.events hconclusion rfl
    exact ⟨_, entry, session_of_ok hread henter hresult, henter,
      .of_failure rfl hannounces hresult hused hdoors hattempted⟩

/-- A run tells how the visit ended. Whatever the variables are, and whatever the state of the
random source is, the run ends. It ends with an error exactly if the configuration is refused, and
this is the error then. Otherwise its last record, and only this one, is the verdict on the
visit. -/
theorem session_tells_outcome (lookup : String → Option String) (g : Generator) :
    ∃ run, Program.session lookup g = some run ∧
      (∀ error, run.error = some error ↔ Config.read lookup = .error error) ∧
      (∀ filter, (run.output filter).code = 0 ↔ ∃ config, Config.read lookup = .ok config) ∧
      (∀ fault, run.error ≠ some (.aborted fault)) ∧
      ∀ config, Config.read lookup = .ok config →
        ∃ entry, config.enter g = some entry ∧ run.Tells config entry := by
  cases hread : Config.read lookup with
  | error error =>
    refine ⟨⟨[], some error⟩, by rw [Program.session, hread], by simp, ?_, ?_, fun _ => nofun⟩
    · intro filter
      simp [Session.output]
    · intro fault hfault
      obtain rfl := Option.some.inj hfault
      exact Config.neverAborts_read lookup fault hread
  | ok config =>
    obtain ⟨run, entry, hsession, henter, htells⟩ := Program.exists_tells hread g
    refine ⟨run, hsession, by simp [htells.noError], ?_, by simp [htells.noError], ?_⟩
    · intro filter
      simp [Session.output, htells.noError]
    · intro config' hconfig
      obtain rfl := Except.ok.inj hconfig
      exact ⟨entry, henter, htells⟩

end TickTree
