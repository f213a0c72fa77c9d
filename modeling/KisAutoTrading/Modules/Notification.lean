/-
# Modules.Notification — reading in-app notifications

`list_user_notifications` and `mark_user_notification_read` of the notification module.
The one fact later proofs use of the second is `markRead_cases`: it leaves the databases
alone, or it sets `read_at` of one unread notification of the caller and nothing else.
-/
import KisAutoTrading.Infrastructure.Database
import Mathlib.Data.List.Sort

namespace KisAutoTrading

open Theory

set_option autoImplicit false

/-- `_notification_location`. -/
def notificationLocation (session : SessionData) : Except Failure (Uuid × ShardTarget) :=
  sessionLocation session

/-- `list_by_user_id`: the newest hundred. -/
def AccountShard.listByUserId (shard : AccountShard) (userId : Uuid) : List InAppNotification :=
  ((shard.notifications.rows.filter fun row => row.userId = userId).insertionSort
    fun a b => b.createdAt ≤ a.createdAt).take 100

/-- `list_user_notifications`. -/
def listUserNotifications (session : SessionData) (dbs : Databases) :
    Except Failure (List InAppNotification × Databases) := do
  let (userId, target) ← notificationLocation session
  dbs.accountSession target fun shard => .ok (shard.listByUserId userId, shard)

/-- `mark_user_notification_read`. -/
def markUserNotificationRead (notificationId : Uuid) (session : SessionData) (now : Instant)
    (dbs : Databases) : Except Failure (InAppNotification × Databases) := do
  let (userId, target) ← notificationLocation session
  dbs.accountSession target fun shard =>
    match shard.notifications.find notificationId with
    | none => .error (.http 404 "Notification was not found")
    | some notification =>
        if notification.userId ≠ userId then .error (.http 404 "Notification was not found")
        else
          match notification.readAt with
          | some _ => .ok (notification, shard)
          | none =>
              let updated := { notification with readAt := some now }
              .ok (updated, { shard with
                notifications := shard.notifications.put updated.notificationId updated })

/-- One notification of one shard is replaced. -/
def Databases.putNotification (dbs : Databases) (shardId : String)
    (notification : InAppNotification) : Databases :=
  let shard := dbs.account shardId
  let written : AccountShard :=
    { shard with
      notifications := shard.notifications.put notification.notificationId notification }
  { dbs with account := Function.update dbs.account shardId written }

theorem markRead_cases (notificationId : Uuid) (session : SessionData) (now : Instant)
    (dbs : Databases) :
    dbs.commit (markUserNotificationRead notificationId session now dbs) = dbs ∨
      ∃ shardId notification,
        (dbs.account shardId).notifications.find notificationId = some notification ∧
        notification.readAt = none ∧
        dbs.commit (markUserNotificationRead notificationId session now dbs) =
          dbs.putNotification shardId { notification with readAt := some now } := by
  unfold markUserNotificationRead
  cases notificationLocation session with
  | error failure => exact .inl rfl
  | ok location =>
      obtain ⟨userId, store, shardId⟩ := location
      cases shardId with
      | none => exact .inl rfl
      | some shardId =>
          simp only [bind, Except.bind, Databases.accountSession]
          split
          · cases found : (dbs.account shardId).notifications.find notificationId with
            | none => exact .inl rfl
            | some notification =>
                by_cases owner : notification.userId = userId
                · cases unread : notification.readAt with
                  | some readAt =>
                      refine .inl ?_
                      simp [owner, unread, Databases.commit]
                  | none =>
                      refine .inr ⟨shardId, notification, found, unread, ?_⟩
                      simp [owner, unread, Databases.commit, Databases.putNotification]
                · refine .inl ?_
                  simp [owner, Databases.commit]
          · exact .inl rfl

section PutNotification

variable (dbs : Databases) (shardId : String) (notification : InAppNotification)

@[simp] theorem Databases.putNotification_automation :
    (dbs.putNotification shardId notification).automation = dbs.automation := rfl

theorem Databases.putNotification_find (shardId' : String) (id : Uuid) :
    ((dbs.putNotification shardId notification).account shardId').notifications.find id =
      if shardId' = shardId ∧ id = notification.notificationId then some notification
      else (dbs.account shardId').notifications.find id := by
  by_cases shard : shardId' = shardId
  · subst shard
    simp [Databases.putNotification, Table.find_put]
  · simp [Databases.putNotification, shard]

end PutNotification

end KisAutoTrading
