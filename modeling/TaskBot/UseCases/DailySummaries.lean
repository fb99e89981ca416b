import TaskBot.Store.TaskRepository
import TaskBot.Store.UserRepository
import TaskBot.Store.RecordRepositories
import TaskBot.Domain.TaskText

/-!
# Daily summaries

Once a day every user with a chat is told how many tasks they have, and how many of
these are overdue, due today, blocked or in review.  The worker reads the users, and of
the open tasks of everybody the 200 that were updated last; the figures of a user are
those of the first 20 of these that are the user's.

* `summaryText_inj`: a summary tells its figures;
* `underKey_run`: what a run leaves under the key of a user;
* `summaries_true_iff`: when the figures are those of all open tasks of the user.
-/

namespace TaskBot

open Sql Calls TaskRepository

/-- `WHERE last_chat_id IS NOT NULL ORDER BY id ASC`. -/
def UserRepository.listWithChatId : Proc (List User) :=
  select .userListWithChatId fun db =>
    .ok (((db.users.rows.filter fun r => r.val.user.lastChatId.isSome).mergeSort fun a b => a.id ≤ b.id).map
      toUser)

namespace EnqueueDailySummaries

def maxDailySummaryTasks : Nat := 20

def maxDailySummaryPreviewTasks : Nat := 5

def dailySummaryOpenTaskScanMultiplier : Nat := 10

/-- The numbers of a summary. -/
structure Figures where
  assigned : Nat
  overdue : Nat
  today : Nat
  blocked : Nat
  review : Nat
deriving DecidableEq, Repr

def figures (today : NaiveDate) (tasks : List Task) : Figures where
  assigned := tasks.length
  overdue := tasks.countP fun t => t.deadline.any (· < today)
  today := tasks.countP fun t => t.deadline = some today
  blocked := tasks.countP fun t => t.status = .blocked
  review := tasks.countP fun t => t.status = .inReview

def preview (tasks : List Task) : String :=
  "\n".intercalate ((tasks.map fun t => "• " ++ t.title).take maxDailySummaryPreviewTasks)

def summaryText (f : Figures) (preview : String) : String :=
  s!"Доброе утро. В работе у вас {f.assigned} задач.\n\nПросрочено: {f.overdue}\nНа сегодня: {f.today}\nС блокером: {f.blocked}\nНа проверке: {f.review}\n\nБлижайшие задачи:\n{preview}"

def summaryKey (userId : Int) (today : NaiveDate) : String :=
  "daily_summary:" ++ toString userId ++ ":" ++ isoDate today

def summary (userId : Int) (today : NaiveDate) (tasks : List Task) (now : Instant) : Notification :=
  Notification.pending none userId .dailySummary (summaryText (figures today tasks) (preview tasks))
    (summaryKey userId today) now

/-- `filter(…).take(MAX_DAILY_SUMMARY_TASKS)`. -/
def assignedTasks (userId : Int) (openTasks : List Task) : List Task :=
  (openTasks.filter fun t => t.assignedToUserId = some userId).take maxDailySummaryTasks

/-- One round of the loop over the users. -/
def enqueueSummary (today : NaiveDate) (openTasks : List Task) (now : Instant) (user : User) : Proc Unit :=
  match user.id with
  | none => pure ()
  | some userId =>
      if (assignedTasks userId openTasks).isEmpty then pure ()
      else do
        let _ ← NotificationRepository.enqueue 0
          (summary userId today (assignedTasks userId openTasks) now)
        pure ()

/-- `clock k` is the time in round `k` of the loop. -/
def execute (today : NaiveDate) (clock : Nat → Instant) : Proc Unit := do
  let users ← UserRepository.listWithChatId
  let openTasks ← listOpen (maxDailySummaryTasks * dailySummaryOpenTaskScanMultiplier)
  Prog.forEach (fun p => enqueueSummary today openTasks (clock p.2) p.1) users.zipIdx

/-! ## What a summary is for -/

def openTasks (db : Db) : List Task :=
  (db.tasks.rows.map toTask).filter fun t => !t.status.isTerminal

def openTasksOf (userId : Int) (db : Db) : List Task :=
  (openTasks db).filter fun t => t.assignedToUserId = some userId

/-- A summary of the day is stored for the user, and its figures are those of all the
user's open tasks. -/
def ToldTruly (today : NaiveDate) (userId : Int) (db : Db) : Prop :=
  ∃ n ∈ db.notifications.rows, n.val.dedupeKey = summaryKey userId today ∧
    n.val.notificationType = .dailySummary ∧ n.val.recipientUserId = userId ∧
    ∃ preview, n.val.message = summaryText (figures today (openTasksOf userId db)) preview

/-- The open tasks in the order of the scan. -/
def openByUpdate (db : Db) : List Task :=
  ((db.tasks.rows.filter fun r => !r.val.task.status.isTerminal).map toTask).mergeSort byUpdate

/-- The 200 open tasks that were updated last. -/
def scanned (db : Db) : List Task :=
  (openByUpdate db).take (maxDailySummaryTasks * dailySummaryOpenTaskScanMultiplier)

/-- Every user with a chat and an open task is told the truth. -/
def SummariesTrue (today : NaiveDate) (db : Db) : Prop :=
  ∀ r ∈ db.users.rows, r.val.user.lastChatId ≠ none → openTasksOf r.id db ≠ [] → ToldTruly today r.id db

/-! ## Texts -/

/-- **A summary tells its figures.** -/
theorem summaryText_inj {f f' : Figures} {p p' : String} (h : summaryText f p = summaryText f' p') :
    f = f' := by
  have htext : ∀ (f : Figures) (p : String), (summaryText f p).toList =
      "Доброе утро. В работе у вас ".toList ++ (Nat.toDigits 10 f.assigned ++
        ' ' :: ("задач.\n\nПросрочено: ".toList ++ (Nat.toDigits 10 f.overdue ++
        '\n' :: ("На сегодня: ".toList ++ (Nat.toDigits 10 f.today ++
        '\n' :: ("С блокером: ".toList ++ (Nat.toDigits 10 f.blocked ++
        '\n' :: ("На проверке: ".toList ++ (Nat.toDigits 10 f.review ++
        '\n' :: ("\nБлижайшие задачи:\n".toList ++ p.toList)))))))))) := by
    intro f p
    unfold summaryText
    simp only [toString, String.toList_append, List.append_assoc, Nat.toList_repr]
    simp
  have hlist := congrArg String.toList h
  rw [htext, htext] at hlist
  obtain ⟨hassigned, hrest⟩ := Fields.toDigits_stop_inj (by decide) (List.append_cancel_left hlist)
  obtain ⟨hoverdue, hrest⟩ := Fields.toDigits_stop_inj (by decide) (List.append_cancel_left hrest)
  obtain ⟨htoday, hrest⟩ := Fields.toDigits_stop_inj (by decide) (List.append_cancel_left hrest)
  obtain ⟨hblocked, hrest⟩ := Fields.toDigits_stop_inj (by decide) (List.append_cancel_left hrest)
  obtain ⟨hreview, -⟩ := Fields.toDigits_stop_inj (by decide) (List.append_cancel_left hrest)
  cases f
  cases f'
  simp only at hassigned hoverdue htoday hblocked hreview
  subst hassigned hoverdue htoday hblocked hreview
  rfl

theorem summaryKey_inj {userId userId' : Int} {today : NaiveDate}
    (h : summaryKey userId today = summaryKey userId' today) : userId = userId' := by
  have htext : ∀ userId : Int, (summaryKey userId today).toList =
      "daily_summary:".toList ++ (idText userId ++ ':' :: (isoDate today).toList) := by
    intro userId
    unfold summaryKey idText
    simp only [String.toList_append, List.append_assoc]
    rfl
  have hlist := congrArg String.toList h
  rw [htext, htext] at hlist
  exact idText_colon_inj (List.append_cancel_left hlist)

/-! ## The tasks that are counted -/

theorem perm_openTasks (db : Db) : (openByUpdate db).Perm (openTasks db) := by
  refine (List.mergeSort_perm _ _).trans (List.Perm.of_eq ?_)
  unfold openTasks
  rw [List.filter_map]
  rfl

/-- No task is listed twice. -/
theorem nodup_openTasks (db : Db) : (openTasks db).Nodup := by
  refine List.Pairwise.filter _ (List.pairwise_map.mpr (db.tasks.apart.imp fun {a b} h heq => h.1 ?_))
  exact Option.some.inj (congrArg Task.id heq)

theorem perm_openTasksOf (userId : Int) (db : Db) :
    ((openByUpdate db).filter fun t => t.assignedToUserId = some userId).Perm (openTasksOf userId db) :=
  (perm_openTasks db).filter _

theorem figures_perm {today : NaiveDate} {l l' : List Task} (h : l.Perm l') :
    figures today l = figures today l' := by
  unfold figures
  rw [h.length_eq, h.countP_eq, h.countP_eq, h.countP_eq, h.countP_eq]

/-- **When the tasks that are counted are all there are**: the user has 20 at most, each
among the 200 that were updated last. -/
theorem assignedTasks_eq_iff {userId : Int} {db : Db} :
    assignedTasks userId (scanned db) =
        ((openByUpdate db).filter fun t => t.assignedToUserId = some userId) ↔
      (openTasksOf userId db).length ≤ maxDailySummaryTasks ∧
        ∀ t ∈ openTasksOf userId db, t ∈ scanned db := by
  have hperm := perm_openTasksOf userId db
  rw [← hperm.length_eq]
  refine (Paging.capped_eq_iff ((perm_openTasks db).nodup_iff.mpr (nodup_openTasks db))).trans ?_
  exact and_congr_right fun _ => forall_congr' fun t => by rw [hperm.mem_iff]; rfl

theorem figures_assigned_iff {today : NaiveDate} {userId : Int} {db : Db} :
    figures today (assignedTasks userId (scanned db)) = figures today (openTasksOf userId db) ↔
      (openTasksOf userId db).length ≤ maxDailySummaryTasks ∧
        ∀ t ∈ openTasksOf userId db, t ∈ scanned db := by
  have hperm := perm_openTasksOf userId db
  rw [← assignedTasks_eq_iff]
  refine ⟨fun h => Paging.capped_eq_of_length ?_, fun h => ?_⟩
  · exact (congrArg Figures.assigned h).trans hperm.length_eq.symm
  · rw [h]
    exact figures_perm hperm

/-! ## What a run stores -/

def chatUsers (db : Db) : List User :=
  ((db.users.rows.filter fun r => r.val.user.lastChatId.isSome).mergeSort fun a b => a.id ≤ b.id).map toUser

theorem mem_chatUsers {u : User} {db : Db} : u ∈ chatUsers db ↔
    ∃ r ∈ db.users.rows, r.val.user.lastChatId ≠ none ∧ toUser r = u := by
  unfold chatUsers
  simp only [List.mem_map, List.mem_mergeSort, List.mem_filter, Option.isSome_iff_ne_none, and_assoc]

/-- The summary of the user, if there is something to tell. -/
def summaryOf (today : NaiveDate) (openTasks : List Task) (now : Instant) (user : User) :
    Option Notification :=
  user.id.bind fun userId =>
    if (assignedTasks userId openTasks).isEmpty then none
    else some (summary userId today (assignedTasks userId openTasks) now)

theorem enqueueSummary_eq (today : NaiveDate) (openTasks : List Task) (now : Instant) (user : User) :
    enqueueSummary today openTasks now user =
      NotificationRepository.enqueueIfAny (summaryOf today openTasks now user) := by
  unfold enqueueSummary summaryOf
  cases user.id with
  | none => rfl
  | some userId =>
    rw [Option.bind_some]
    dsimp only
    split <;> rfl

section

variable {today : NaiveDate} {clock : Nat → Instant} {plan : Site → Fault AppError} {db : Db}

/-- A run that answers has stored a summary for each user that has one. -/
theorem run_ok (hok : ((execute today clock).run plan db).1 = .ok ()) :
    ((execute today clock).run plan db).2 =
      ((chatUsers db).zipIdx.filterMap fun p => summaryOf today (scanned db) (clock p.2) p.1).foldl
        Db.insertNotification db := by
  by_cases husers : plan .userListWithChatId = .none
  · have hfirst : UserRepository.listWithChatId.run plan db = (.ok (chatUsers db), db) := run_select husers db
    by_cases htasks : plan .taskListOpen = .none
    · have hsecond : (listOpen (maxDailySummaryTasks * dailySummaryOpenTaskScanMultiplier)).run plan db =
          (.ok (scanned db), db) := run_select htasks db
      unfold execute at hok ⊢
      rw [Prog.run_bind_ok plan hfirst, Prog.run_bind_ok plan hsecond] at hok ⊢
      exact NotificationRepository.run_enqueueEach_ok (fun p => enqueueSummary_eq _ _ _ _) (Prod.ext hok rfl)
    · obtain ⟨e, he⟩ : ∃ e, (listOpen (maxDailySummaryTasks * dailySummaryOpenTaskScanMultiplier)).run plan db =
          (.error e, db) := run_select_failed _ htasks db
      unfold execute at hok
      rw [Prog.run_bind_ok plan hfirst, Prog.run_bind_error plan he] at hok
      cases hok
  · obtain ⟨e, he⟩ : ∃ e, UserRepository.listWithChatId.run plan db = (.error e, db) :=
      run_select_failed _ husers db
    unfold execute at hok
    rw [Prog.run_bind_error plan he] at hok
    cases hok

theorem run_rest (hok : ((execute today clock).run plan db).1 = .ok ()) :
    ∃ t, ((execute today clock).run plan db).2 = { db with notifications := t } := by
  rw [run_ok hok]
  exact insertAll_rest _ db

/-- **What a run leaves under the key of a user**: the summary of the tasks that are
counted, or nothing when there are none. -/
theorem underKey_run (hok : ((execute today clock).run plan db).1 = .ok ()) {r : Stored UserColumns}
    (hr : r ∈ db.users.rows) (hchat : r.val.user.lastChatId ≠ none)
    (hfresh : ¬ db.Notified (summaryKey r.id today)) :
    if assignedTasks r.id (scanned db) = [] then
      ((execute today clock).run plan db).2.underKey (summaryKey r.id today) = none
    else ∃ now, ((execute today clock).run plan db).2.underKey (summaryKey r.id today) =
      some (summary r.id today (assignedTasks r.id (scanned db)) now) := by
  have hkey : ∀ n ∈ (chatUsers db).zipIdx.filterMap fun p => summaryOf today (scanned db) (clock p.2) p.1,
      n.dedupeKey = summaryKey r.id today → assignedTasks r.id (scanned db) ≠ [] ∧
        ∃ now, n = summary r.id today (assignedTasks r.id (scanned db)) now := by
    intro n hn hk
    obtain ⟨p, -, hp⟩ := List.mem_filterMap.mp hn
    obtain ⟨userId, -, hsome⟩ := Option.bind_eq_some_iff.mp hp
    split at hsome
    · cases hsome
    · next hne =>
      cases hsome
      have hid := summaryKey_inj hk
      subst hid
      exact ⟨fun he => hne (List.isEmpty_iff.mpr he), _, rfl⟩
  rw [run_ok hok, underKey_insertAll, underKey_eq_none.mpr hfresh, Option.none_or]
  split
  · next hempty =>
    refine List.find?_eq_none.mpr fun n hn hk => ?_
    exact (hkey n hn (of_decide_eq_true hk)).1 hempty
  · next hne =>
    cases hfind : List.find? (fun n => decide (n.dedupeKey = summaryKey r.id today))
        ((chatUsers db).zipIdx.filterMap fun p => summaryOf today (scanned db) (clock p.2) p.1) with
    | some n =>
      obtain ⟨-, now, rfl⟩ := hkey n (List.mem_of_find?_eq_some hfind)
        (of_decide_eq_true (List.find?_some hfind :))
      exact ⟨now, rfl⟩
    | none =>
      have huser : toUser r ∈ chatUsers db := mem_chatUsers.mpr ⟨r, hr, hchat, rfl⟩
      obtain ⟨k, hk⟩ := List.mem_iff_getElem?.mp huser
      have hown : summary r.id today (assignedTasks r.id (scanned db)) (clock k) ∈
          (chatUsers db).zipIdx.filterMap fun p => summaryOf today (scanned db) (clock p.2) p.1 := by
        refine List.mem_filterMap.mpr ⟨(toUser r, k), List.mk_mem_zipIdx_iff_getElem?.mpr hk, ?_⟩
        exact (Option.bind_some ..).trans (if_neg fun he => hne (List.isEmpty_iff.mp he))
      exact absurd (decide_eq_true rfl) (List.find?_eq_none.mp hfind _ hown)

/-- When a user is told the truth. -/
theorem toldTruly_iff (hok : ((execute today clock).run plan db).1 = .ok ()) {r : Stored UserColumns}
    (hr : r ∈ db.users.rows) (hchat : r.val.user.lastChatId ≠ none)
    (hfresh : ¬ db.Notified (summaryKey r.id today)) (hopen : openTasksOf r.id db ≠ []) :
    ToldTruly today r.id ((execute today clock).run plan db).2 ↔
      (openTasksOf r.id db).length ≤ maxDailySummaryTasks ∧
        ∀ t ∈ openTasksOf r.id db, t ∈ scanned db := by
  have htasks : openTasksOf r.id ((execute today clock).run plan db).2 = openTasksOf r.id db := by
    obtain ⟨t, ht⟩ := run_rest hok
    rw [ht]
    rfl
  have hunder := underKey_run hok hr hchat hfresh
  unfold ToldTruly
  rw [htasks, ← @figures_assigned_iff today]
  constructor
  · rintro ⟨n, hn, hk, -, -, p, hp⟩
    have hn' := underKey_eq_some.mpr ⟨n, hn, hk, rfl⟩
    split at hunder
    · rw [hunder] at hn'
      cases hn'
    · obtain ⟨now, hunder⟩ := hunder
      rw [hunder] at hn'
      rw [← Option.some.inj hn'] at hp
      exact summaryText_inj hp
  · intro hfigures
    have hne : assignedTasks r.id (scanned db) ≠ [] := fun he => by
      have hlen := congrArg Figures.assigned hfigures
      rw [he] at hlen
      exact hopen (List.length_eq_zero_iff.mp hlen.symm)
    rw [if_neg hne] at hunder
    obtain ⟨now, hunder⟩ := hunder
    obtain ⟨n, hn, hk, hn'⟩ := underKey_eq_some.mp hunder
    refine ⟨n, hn, hk, by rw [hn']; rfl, by rw [hn']; rfl, preview (assignedTasks r.id (scanned db)), ?_⟩
    rw [hn', ← hfigures]
    rfl

end

/-- **When a run tells everybody the truth**: exactly if every user with a chat has 20 open
tasks at most, each among the 200 open tasks of all users that were updated last. -/
theorem summaries_true_iff (today : NaiveDate) (clock : Nat → Instant) (plan : Site → Fault AppError) (db : Db)
    (hok : ((execute today clock).run plan db).1 = .ok ())
    (hfresh : ∀ userId, ¬ db.Notified (summaryKey userId today)) :
    SummariesTrue today ((execute today clock).run plan db).2 ↔
      ∀ r ∈ db.users.rows, r.val.user.lastChatId ≠ none →
        (openTasksOf r.id db).length ≤ maxDailySummaryTasks ∧ ∀ t ∈ openTasksOf r.id db, t ∈ scanned db := by
  have hrest : ((execute today clock).run plan db).2.users = db.users ∧
      ∀ userId, openTasksOf userId ((execute today clock).run plan db).2 = openTasksOf userId db := by
    obtain ⟨t, ht⟩ := run_rest hok
    rw [ht]
    exact ⟨rfl, fun _ => rfl⟩
  unfold SummariesTrue
  rw [hrest.1]
  refine forall₂_congr fun r hr => forall_congr' fun hchat => ?_
  rw [hrest.2]
  constructor
  · intro h
    by_cases hopen : openTasksOf r.id db = []
    · rw [hopen]
      exact ⟨Nat.zero_le _, fun t ht => nomatch ht⟩
    · exact (toldTruly_iff hok hr hchat (hfresh r.id) hopen).mp (h hopen)
  · exact fun h hopen => (toldTruly_iff hok hr hchat (hfresh r.id) hopen).mpr h

/-! ## One task, and twenty-one -/

/-- A run in which no statement fails answers. -/
theorem run_answers (today : NaiveDate) (clock : Nat → Instant) (db : Db) :
    ((execute today clock).run noFaults db).1 = .ok () := by
  have hwhole : Prog.Answers noFaults (execute today clock) db :=
    .of_run (run_select rfl db) (.of_run (run_select rfl db)
      (answers_enqueueEach (fun _ => enqueueSummary_eq _ _ _ _) _ db))
  obtain ⟨_, db', hrun⟩ := hwhole
  rw [hrun]

/-- User 1 with a chat, and the given tasks. -/
def oneUserDb (tasks : Table TaskColumns) : Db :=
  { Db.empty with
    users := (Table.empty.insertOrIgnore ⟨UserRepository.sampleUser 10 .user, none⟩).1
    tasks }

theorem oneUserDb_fresh (tasks : Table TaskColumns) (today : NaiveDate) (userId : Int) :
    ¬ (oneUserDb tasks).Notified (summaryKey userId today) := fun ⟨_, hn, _⟩ => nomatch hn

def ownTask : Task := { sampleTask with assignedToUserId := some 1, deadline := some 100 }

/-- On the day of the deadline of their only task the user is told so. -/
theorem summaries_true_one : SummariesTrue 100
    ((execute 100 fun _ => 0).run noFaults (oneUserDb (Db.withTask ownTask).tasks)).2 := by
  have hscanned : scanned (oneUserDb (Db.withTask ownTask).tasks) = [ownTask] := by
    unfold scanned openByUpdate
    rw [List.mergeSort_of_pairwise (by decide)]
    decide
  refine (summaries_true_iff 100 _ noFaults _ (run_answers _ _ _) (oneUserDb_fresh _ _)).mpr ?_
  rw [hscanned]
  decide

/-- Task `n` of the user. -/
def numberedTask (n : Nat) : Task :=
  { ownTask with taskUid := sampleUid (UInt8.ofNat n), sourceMessageKey := String.ofList (List.replicate n 'a') }

theorem numberedTask_apart {m n : Nat} (hm : m < 21) (hn : n < 21) (hne : m ≠ n) :
    Keyed.clash (newColumns (numberedTask m)) (newColumns (numberedTask n)) = false := by
  refine Bool.eq_false_iff.mpr fun hclash => ?_
  rcases (clash_tasks _ _).mp hclash with huid | hkey
  · have hbyte : (UInt8.ofNat m).toNat = (UInt8.ofNat n).toNat :=
      congrArg (fun u : Uuid => u.bytes[0].toNat) huid
    rw [UInt8.toNat_ofNat', UInt8.toNat_ofNat'] at hbyte
    omega
  · have hlen := congrArg (fun s : String => s.toList.length) hkey
    simp only [newColumns, numberedTask, String.toList_ofList, List.length_replicate] at hlen
    exact hne hlen

/-- Twenty-one tasks of the user. -/
def manyTasks : Table TaskColumns where
  rows := (List.range 21).map fun n : Nat => ⟨n, newColumns (numberedTask n)⟩
  nextId := 21
  fresh := by
    intro r hr
    obtain ⟨n, hn, rfl⟩ := List.mem_map.mp hr
    exact Int.ofNat_lt.mpr (List.mem_range.mp hn)
  apart := by
    refine List.pairwise_map.mpr (List.nodup_range.imp_of_mem fun {m n} hm hn hne => ⟨?_, ?_⟩)
    · exact fun h => hne (Int.ofNat_inj.mp h)
    · exact numberedTask_apart (List.mem_range.mp hm) (List.mem_range.mp hn) hne

/-- A user with 21 tasks is told of 20. -/
theorem summary_undercounts :
    ¬ ∀ (today : NaiveDate) (clock : Nat → Instant) (plan : Site → Fault AppError) (db : Db),
      ((execute today clock).run plan db).1 = .ok () →
      (∀ userId, ¬ db.Notified (summaryKey userId today)) →
        SummariesTrue today ((execute today clock).run plan db).2 := by
  intro hclaim
  have hopen : (openTasksOf 1 (oneUserDb manyTasks)).length = 21 := by decide
  have htrue := hclaim 100 (fun _ => 0) noFaults (oneUserDb manyTasks) (run_answers _ _ _) (oneUserDb_fresh _ _)
  obtain ⟨t, ht⟩ := run_rest (run_answers 100 (fun _ => 0) (oneUserDb manyTasks))
  have hne : openTasksOf 1 (oneUserDb manyTasks) ≠ [] := fun he => by
    rw [he] at hopen
    cases hopen
  have hrow : (⟨1, ⟨UserRepository.sampleUser 10 .user, none⟩⟩ : Stored UserColumns) ∈
      (oneUserDb manyTasks).users.rows := by decide
  have hcond := (toldTruly_iff (run_answers _ _ _) hrow (by decide) (oneUserDb_fresh _ _ _) hne).mp
    (htrue _ (by rw [ht]; exact hrow) (by decide) (by rw [ht]; exact hne))
  rw [hopen] at hcond
  exact absurd hcond.1 (by decide)

end EnqueueDailySummaries

end TaskBot
