import TaskBot.Store.UserRepository

/-!
# Identity of users

Two columns of `users` name a person: the linked employee and the username, which
is compared without regard to case.  Neither is declared unique, and no statement
looks at the other rows before it writes them.

* `UserCall.KeepsIdentity`: the link and the username the call writes are free;
* `exec_exclusive_iff`: a call keeps both columns exclusive exactly then;
* `findByUsername_denotes`: then a lookup by username denotes one row.
-/

namespace TaskBot

open Sql Calls

namespace UserRepository

def linkKey (c : UserColumns) : Option Int := c.user.linkedEmployeeId

def nameKey (c : UserColumns) : Option String := c.user.telegramUsername.map sqlLower

/-- At most one user is linked to an employee, and at most one carries a username. -/
structure ExclusiveIdentity (t : Table UserColumns) : Prop where
  link : t.Exclusive linkKey
  name : t.Exclusive nameKey

/-- The link and the username the call writes are held by no other row. -/
def UserCall.KeepsIdentity (t : Table UserColumns) : UserCall → Prop
  | .upsertFromMessage user =>
      t.Free linkKey (hasTelegramId user.telegramId) user.linkedEmployeeId ∧
        t.Free nameKey (hasTelegramId user.telegramId) (user.telegramUsername.map sqlLower)
  | .ensureOnboardingSession telegramId _ telegramUsername _ _ =>
      t.Free nameKey (hasTelegramId telegramId) (telegramUsername.map sqlLower)
  | .completeOnboarding userId expectedVersion _ _ linkedEmployeeId _ =>
      (∃ r ∈ t.rows, atVersion userId expectedVersion r = true) →
        t.Free linkKey (fun r => r.id = userId) linkedEmployeeId
  | .setRole .. | .deactivate .. | .reactivate .. | .promoteBootstrapAdmin .. | .saveOnboardingProgress .. =>
      True

/-! ## One call -/

section

variable {t : Table UserColumns}

/-- An update that writes neither column. -/
theorem exclusive_of_keeps {q : Stored UserColumns → Bool} {f : UserColumns → UserColumns}
    (hf : KeepsKeys f) (h : ExclusiveIdentity t) (hlink : ∀ c, linkKey (f c) = linkKey c)
    (hname : ∀ c, nameKey (f c) = nameKey c) : ExclusiveIdentity (t.modify q f hf) :=
  ⟨Table.exclusive_modify_of_keeps hf h.link hlink, Table.exclusive_modify_of_keeps hf h.name hname⟩

theorem exclusive_updateReturning {q : Stored UserColumns → Bool} {f : UserColumns → UserColumns}
    {hf : KeepsKeys f} {missing : AppError} {db : Db} (h : ExclusiveIdentity db.users)
    (hlink : ∀ c, linkKey (f c) = linkKey c) (hname : ∀ c, nameKey (f c) = nameKey c) :
    ExclusiveIdentity (updateReturning q f hf missing db).2.users := by
  unfold updateReturning
  split
  · exact h
  · exact exclusive_of_keeps hf h hlink hname

/-- A telegram id names one row. -/
theorem hasTelegramId_iff {r₀ : Stored UserColumns} (hr₀ : r₀ ∈ t.rows) {telegramId : Int}
    (htid : r₀.val.user.telegramId = telegramId) :
    ∀ r ∈ t.rows, hasTelegramId telegramId r = true ↔ r = r₀ := by
  intro r hr
  constructor
  · intro hq
    have hclash : Keyed.clash r.val r₀.val = true := decide_eq_true ((of_decide_eq_true hq).trans htid.symm)
    exact Table.eq_of_not_apart hr hr₀ (.inr hclash)
  · rintro rfl
    exact decide_eq_true htid

/-- So does an id. -/
theorem hasId_iff {r₀ : Stored UserColumns} (hr₀ : r₀ ∈ t.rows) :
    ∀ r ∈ t.rows, decide (r.id = r₀.id) = true ↔ r = r₀ := by
  intro r hr
  constructor
  · exact fun hq => Table.eq_of_not_apart hr hr₀ (.inl (of_decide_eq_true hq))
  · rintro rfl
    exact decide_eq_true rfl

theorem insert_exclusive_iff (h : ExclusiveIdentity t) (columns : UserColumns)
    (hnone : ∀ r ∈ t.rows, r.val.user.telegramId ≠ columns.user.telegramId) :
    ExclusiveIdentity (t.insertOrIgnore columns).1 ↔
      t.Free linkKey (hasTelegramId columns.user.telegramId) (linkKey columns) ∧
        t.Free nameKey (hasTelegramId columns.user.telegramId) (nameKey columns) := by
  have hnew : ∀ r ∈ t.rows, Keyed.clash r.val columns = false := fun r hr => decide_eq_false (hnone r hr)
  have hown : ∀ r ∈ t.rows, hasTelegramId columns.user.telegramId r = false :=
    fun r hr => decide_eq_false (hnone r hr)
  rw [← Table.exclusive_insert_iff h.link hnew hown, ← Table.exclusive_insert_iff h.name hnew hown]
  exact ⟨fun hex => ⟨hex.link, hex.name⟩, fun hex => ⟨hex.1, hex.2⟩⟩

end

section

variable {db : Db}

theorem upsertUser_exclusive_iff (h : ExclusiveIdentity db.users) (user : User) :
    ExclusiveIdentity (upsertUser user db).2.users ↔
      (UserCall.upsertFromMessage user).KeepsIdentity db.users := by
  unfold upsertUser
  cases hfind : db.users.find? fun r => r.val.user.telegramId = user.telegramId with
  | some r =>
    obtain ⟨hr, hq⟩ := Table.find?_some hfind
    have hown := hasTelegramId_iff hr (of_decide_eq_true hq)
    have hself : hasTelegramId user.telegramId r = true := (hown r hr).mpr rfl
    have hlink := Table.exclusive_modify_iff (mergeFromMessage_keeps user) h.link hr hown hown
    have hname := Table.exclusive_modify_iff (mergeFromMessage_keeps user) h.name hr hown hown
    rw [show linkKey (mergeFromMessage user r.val) = user.linkedEmployeeId.or (linkKey r.val) from rfl,
      Table.free_or_iff h.link hr hself] at hlink
    constructor
    · exact fun hex => ⟨hlink.mp hex.link, hname.mp hex.name⟩
    · exact fun hfree => ⟨hlink.mpr hfree.1, hname.mpr hfree.2⟩
  | none =>
    exact insert_exclusive_iff h _ fun r hr => of_decide_eq_false (Table.find?_none hfind r hr)

theorem ensureOnboardingSession_exclusive_iff (h : ExclusiveIdentity db.users) (telegramId chatId : Int)
    (telegramUsername fallbackFullName : Option String) (now : Instant) :
    ExclusiveIdentity
        (ensureOnboardingSession telegramId chatId telegramUsername fallbackFullName now db).2.users ↔
      db.users.Free nameKey (hasTelegramId telegramId) (telegramUsername.map sqlLower) := by
  unfold ensureOnboardingSession
  cases hfind : db.users.find? fun r => r.val.user.telegramId = telegramId with
  | some r =>
    obtain ⟨hr, hq⟩ := Table.find?_some hfind
    have hrow : db.users.find? (fun r' => r'.id = r.id) = some r :=
      Table.find?_eq hr (decide_eq_true rfl) fun a b ha hb =>
        .inl ((of_decide_eq_true ha).trans (of_decide_eq_true hb).symm)
    have hname := Table.exclusive_modify_iff (touchSession_keeps chatId telegramUsername now) h.name hr (hasId_iff hr)
      (hasTelegramId_iff hr (of_decide_eq_true hq))
    have hlink : (db.users.modify (fun r' => r'.id = r.id) (touchSession chatId telegramUsername now)
        (touchSession_keeps chatId telegramUsername now)).Exclusive linkKey :=
      Table.exclusive_modify_of_keeps _ h.link fun _ => rfl
    simp only [updateReturning, hrow]
    exact ⟨fun hex => hname.mp hex.name, fun hfree => ⟨hlink, hname.mpr hfree⟩⟩
  | none =>
    have hinsert := insert_exclusive_iff h
      (onboardingRow telegramId chatId telegramUsername fallbackFullName now)
      fun r hr => of_decide_eq_false (Table.find?_none hfind r hr)
    refine hinsert.trans ⟨fun hfree => hfree.2, fun hfree => ⟨fun r _ _ k hk => ?_, hfree⟩⟩
    cases hk

theorem completeOnboarding_exclusive_iff (h : ExclusiveIdentity db.users) (userId expectedVersion : Int)
    (firstName lastName : String) (linkedEmployeeId : Option Int) (now : Instant) :
    ExclusiveIdentity
        (completeOnboarding userId expectedVersion firstName lastName linkedEmployeeId now db).2.users ↔
      ((∃ r ∈ db.users.rows, atVersion userId expectedVersion r = true) →
        db.users.Free linkKey (fun r => r.id = userId) linkedEmployeeId) := by
  unfold completeOnboarding updateReturning
  cases hfind : db.users.find? (atVersion userId expectedVersion) with
  | none =>
    refine iff_of_true h fun ⟨r, hr, hq⟩ => ?_
    rw [Table.find?_none hfind r hr] at hq
    cases hq
  | some r =>
    obtain ⟨hr, hq⟩ := Table.find?_some hfind
    obtain ⟨hid, hversion⟩ := of_decide_eq_true hq
    have hmatch : ∀ r' ∈ db.users.rows, atVersion userId expectedVersion r' = true ↔ r' = r := by
      intro r' hr'
      constructor
      · exact fun hq' => Table.eq_of_not_apart hr' hr (.inl ((of_decide_eq_true hq').1.trans hid.symm))
      · rintro rfl
        exact hq
    have hown := hasId_iff hr
    rw [hid] at hown
    have hlink := Table.exclusive_modify_iff
      (completedColumns_keeps firstName lastName linkedEmployeeId now) h.link hr hmatch hown
    rw [show linkKey (completedColumns firstName lastName linkedEmployeeId now r.val) =
        linkedEmployeeId.or (linkKey r.val) from rfl,
      Table.free_or_iff h.link hr (decide_eq_true hid)] at hlink
    have hname : (db.users.modify (atVersion userId expectedVersion)
        (completedColumns firstName lastName linkedEmployeeId now)
        (completedColumns_keeps firstName lastName linkedEmployeeId now)).Exclusive nameKey :=
      Table.exclusive_modify_of_keeps _ h.name fun _ => rfl
    exact ⟨fun hex _ => hlink.mp hex.link, fun hfree => ⟨hlink.mpr (hfree ⟨r, hr, hq⟩), hname⟩⟩

/-- **A call keeps the identities apart exactly if what it writes is free.** -/
theorem exec_exclusive_iff (c : UserCall) (h : ExclusiveIdentity db.users) :
    ExclusiveIdentity (c.exec db).2.users ↔ c.KeepsIdentity db.users := by
  cases c with
  | setRole actor id role now =>
    refine iff_of_true ?_ trivial
    simp only [UserCall.exec, UserCall.exec.forget, setRole]
    split
    · exact h
    · split
      · exact h
      · exact exclusive_updateReturning h (fun _ => rfl) fun _ => rfl
  | deactivate actor id now =>
    refine iff_of_true ?_ trivial
    simp only [UserCall.exec, UserCall.exec.forget, deactivate]
    split
    · exact h
    · split
      · exact h
      · exact exclusive_updateReturning h (fun _ => rfl) fun _ => rfl
  | reactivate actor id now =>
    exact iff_of_true (exclusive_updateReturning h (fun _ => rfl) fun _ => rfl) trivial
  | promoteBootstrapAdmin tid now =>
    refine iff_of_true ?_ trivial
    simp only [UserCall.exec, UserCall.exec.forget, promoteBootstrapAdmin]
    split
    · exact h
    · split
      · exact h
      · exact exclusive_updateReturning h (fun _ => rfl) fun _ => rfl
  | upsertFromMessage user => exact upsertUser_exclusive_iff h user
  | ensureOnboardingSession tid chat name full now =>
    exact ensureOnboardingSession_exclusive_iff h tid chat name full now
  | saveOnboardingProgress id v s first last now =>
    exact iff_of_true (exclusive_updateReturning h (fun _ => rfl) fun _ => rfl) trivial
  | completeOnboarding id v first last link now =>
    exact completeOnboarding_exclusive_iff h id v first last link now

end

/-! ## Lookups -/

/-- While usernames are exclusive, a lookup by username denotes one row. -/
theorem findByUsername_denotes {t : Table UserColumns} (h : ExclusiveIdentity t) {username : String}
    {r : Stored UserColumns} (hr : r ∈ t.rows) (hname : hasUsername username r = true) :
    t.find? (hasUsername username) = some r := by
  have hkey : ∀ r : Stored UserColumns, hasUsername username r = true →
      nameKey r.val = some (sqlLower (withoutAt username)) := by
    intro r hr
    unfold hasUsername at hr
    unfold nameKey
    split at hr
    · next u hu =>
      rw [hu]
      exact congrArg some (of_decide_eq_true hr)
    · cases hr
  cases hfind : t.find? (hasUsername username) with
  | none =>
    rw [Table.find?_none hfind r hr] at hname
    cases hname
  | some r' =>
    obtain ⟨hr', hq⟩ := Table.find?_some hfind
    rw [h.name r' hr' r hr _ (hkey r' hq) (hkey r hname)]

end UserRepository

end TaskBot
