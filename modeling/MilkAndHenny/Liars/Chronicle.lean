import MilkAndHenny.Liars.Deeds

/-! The chronicle of a room: all the nights and votes that have been decided in it, and the rule by which
something that holds of them and of the course of the games holds throughout a run. -/

namespace MilkAndHenny.Liars
variable {room : LiarsRoom} {holds : List Decision → Course → Prop}
open Library

/-- A room, and what has been decided in it. -/
structure Record where
  past : List LiarsRoom.Decision
  room : LiarsRoom

def Command.record (command : Command) (record : Record) : Record :=
  ⟨record.past ++ command.decisions record.room, command.apply record.room⟩

def chronicle (room : LiarsRoom) (commands : List Command) : List LiarsRoom.Decision :=
  (runFrom Command.record ⟨[], room⟩ commands).past

theorem recorded_room (record : Record) (commands : List Command) :
    (runFrom Command.record record commands).room = runFrom Command.apply record.room commands :=
  @runFrom_through LiarsRoom Command Command.apply Record Command.record Record.room (fun _ _ => rfl) record commands

namespace LiarsRoom
variable {ctx : GameContext} {room found after : LiarsRoom} {holds : List Decision → Course → Prop}
    {past made : List Decision} {course : Course}

structure Endures (holds : List Decision → Course → Prop) : Prop where
  leads : ∀ {ctx : GameContext} {table : LiarsRoom} {now : Int} {course : Course} {past : List Decision},
    holds past table.course → Leads ctx table now course → holds (past ++ decides ctx table now) course
  woken : ∀ {past : List Decision} {course : Course} {dormant : Int}, 0 < dormant → course.clock.pausedAt = none →
      holds past course →
    holds past { course with clock := { course.clock.shift dormant with dawn := course.clock.dawn.map (·.shift dormant) } }

namespace Endures

theorem passes (endures : Endures holds) (passes : Passes ctx room made after) (held : holds past room.course) :
    holds (past ++ made) after.course := by
  induction passes generalizing past with
  | rests same =>
    rw [append_nil, same]
    exact held
  | still same _ ih => exact ih (same ▸ held)
  | woken positive unpaused shifted _ ih =>
    apply ih
    rw [shifted]
    exact endures.woken positive unpaused held
  | due overdue _ _ ih =>
    rw [← append_assoc]
    exact ih (endures.leads held (transition_leads (overdue_running overdue).2.2))

theorem led (endures : Endures holds) {table : LiarsRoom} (same : table.course = found.course)
    (day : found.phase ≠ .night ∧ found.phase ≠ .vote)
    (leads : Leads ctx table ctx.now course) (held : holds past found.course) : holds past course := by
  have phase : table.phase = found.phase := congrArg Course.phase same
  have nothing : decides ctx table ctx.now = [] := by
    apply if_neg
    rw [phase, not_or]
    exact day
  have kept := endures.leads (same ▸ held) leads
  rwa [nothing, append_nil] at kept

theorem deed (endures : Endures holds) {act : Option Act} (deed : Deed ctx found act made course) (held : holds past found.course)
    (own : Deed ctx found act [] course → holds past course) : holds (past ++ made) course := by
  have nothing (deed : Deed ctx found act [] course) : holds (past ++ []) course := by
    rw [append_nil]
    exact own deed
  cases deed with
  | @counts id votes =>
    have same : (found.votedIn ctx id).course = found.course := row_course ctx fun _ => rfl
    have decided : decides ctx (found.votedIn ctx id) ctx.now = [⟨ctx, found.votedIn ctx id, ctx.now⟩] := if_pos (.inr votes)
    rw [← decided]
    exact endures.leads (same ▸ held) (resolveVote_leads votes)
  | rests => exact nothing .rests
  | joins lobby => exact nothing (.joins lobby)
  | configures lobby => exact nothing (.configures lobby)
  | dismisses lobby => exact nothing (.dismisses lobby)
  | extends_ => exact nothing .extends_
  | pauses => exact nothing .pauses
  | resumes paused => exact nothing (.resumes paused)
  | deals lobby fewer lasts => exact nothing (.deals lobby fewer lasts)
  | replays lasts => exact nothing (.replays lasts)
  | returns => exact nothing .returns
  | ends => exact nothing .ends
  | departs leaves playing => exact nothing (.departs leaves playing)
  | chooses night seated alive targets => exact nothing (.chooses night seated alive targets)
  | hastens night reported everyone => exact nothing (.hastens night reported everyone)
  | casts votes stands => exact nothing (.casts votes stands)
  | haunts seated dead => exact nothing (.haunts seated dead)
  | leads same day leads => exact nothing (.leads same day leads)

end Endures

end LiarsRoom

open LiarsRoom

theorem LiarsRoom.Endures.command (endures : Endures holds) {command : Command}

    {past : List Decision} (held : holds past room.course)
    (own : ∀ {past : List Decision}, holds past (command.finds room).course →
      Deed command.ctx (command.finds room) (command.act room) [] (command.apply room).course →
        holds past (command.apply room).course) :
    holds (past ++ command.decisions room) (command.apply room).course := by
  have found := endures.passes (command.finds_passes room) held
  have acted := endures.deed (command.apply_deed room) found (own found)
  rwa [append_assoc] at acted

theorem LiarsRoom.Endures.throughout (endures : Endures holds) {meets : Command → LiarsRoom → Prop}
    (own : ∀ {command : Command} {room : LiarsRoom} {past : List Decision}, meets command room →
      holds past (command.finds room).course →
      Deed command.ctx (command.finds room) (command.act room) [] (command.apply room).course →
        holds past (command.apply room).course)
    {room : LiarsRoom} {commands : List Command} (start : holds [] room.course)
    (each : EachStep Command.apply meets room commands) :
    holds (chronicle room commands) (runFrom Command.apply room commands).course := by
  let sound (record : Record) : Prop := holds record.past record.room.course
  have step {record : Record} {command : Command} (held : sound record) (fits : meets command record.room) :
      sound (command.record record) ∧ True :=
    ⟨endures.command held fun found deed => own fits found deed, trivial⟩
  have recorded : EachStep Command.record (fun command record => meets command record.room) ⟨[], room⟩ commands :=
    @EachStep.through LiarsRoom Command Command.apply meets Record Command.record Record.room (fun _ _ => rfl) _ commands each
  have last : sound (runFrom Command.record ⟨[], room⟩ commands) :=
    (@EachStep.shows Record Command Command.record _ sound (fun _ _ => True) step _ commands start recorded).1.last
  unfold sound at last
  rwa [recorded_room] at last

theorem Command.DrawsNewId.fresh {command : Command} (draws : command.DrawsNewId room) (id : Nat)
    (joins : command.act room = some (.join id)) : id ∉ (command.finds room).course.trails.map (·.id) := by
  cases command with
  | join =>
    cases Act.join.inj (some.inj joins)
    intro listed
    obtain ⟨trail, there, named⟩ := mem_map.mp listed
    obtain ⟨player, seated, rfl⟩ := mem_map.mp there
    exact draws player seated named
  | read => cases joins
  | host | play =>
    simp only [act] at joins
    split at joins <;> cases joins

def shortPhases : TimingsPatch :=
  { deal := some 10000, night := some 20000, dawn := some 8000, deliberation := some 20000, vote := some 10000, verdict := some 5000 }

end MilkAndHenny.Liars
