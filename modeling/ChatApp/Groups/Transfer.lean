/-
  What the success of a transfer means when operations run at the same time. The conditional
  UPDATE that matches no row is a success of SQL all the same, and the two UPDATEs of the roles
  follow it; a transfer means what it says in the runs in which its owner check still holds at
  its Database call.
-/
import ChatApp.Lib.Workers
import ChatApp.Groups.Authority

namespace ChatApp.Groups

open ChatApp.Lib ChatApp.Database

abbrev GroupEvent (θ : Type) := Event interface GroupDb θ GroupOp GroupOp.Result

abbrev GroupWorkers (θ : Type) := Workers interface GroupDb θ GroupOp GroupOp.Result

/-- `owner_id` of `g` goes from `o` to `n`, and `is_admin` changes only for these two in `g`. -/
structure PassesOn (db db' : GroupDb) (g o n : Nat) : Prop where
  before : db.owner g = some o
  after : db'.owner g = some n
  ranks : ∀ k u, ¬ (k = g ∧ (u = o ∨ u = n)) → db'.rank k u = db.rank k u

/-- A transfer returns true exactly if its last call was its Database call and answered true; that
    call has passed the group on then, and if it found another owner it answered false and
    changed nothing. -/
structure TransfersMean {θ : Type} (log : List (GroupEvent θ)) : Prop where
  returned : ∀ l₁ t o g n r l₂, log = l₁ ++ .ret t (.transfer o g n) r :: l₂ →
    (r = .ok () ↔ ∃ db db', LastCall t l₂ (.transfer o g n) db
      (Call.transferGroupOwner g o n) true db')
  passed : ∀ t op db g o n db', .call t op db (.transferGroupOwner g o n) true db' ∈ log →
    PassesOn db db' g o n
  stale : ∀ t op db g o n a db', .call t op db (.transferGroupOwner g o n) a db' ∈ log →
    db.owner g ≠ some o → a = false ∧ db' = db

/-- The Database call of a transfer finds the owner that its check found, or its first UPDATE
    fails. -/
def FindsOwner (_ : GroupOp) (db : GroupDb) : Call → Moment → Prop
  | .transferGroupOwner g o _, m => m.through 0 = true → db.owner g = some o
  | _, _ => True

instance (op : GroupOp) (db : GroupDb) : (c : Call) → (m : Moment) →
    Decidable (FindsOwner op db c m)
  | .transferGroupOwner .., _ => inferInstanceAs (Decidable (_ → _))
  | .getGroupById _, _ | .updateGroup _, _ | .dismissGroup _, _ | .addGroupMember .., _
  | .getUserGroups _, _ | .getGroupMembers _, _ | .isGroupMember .., _ | .isGroupAdmin .., _
  | .isGroupOwner .., _ | .setGroupAdmin .., _ | .createGroup .., _ | .removeGroupMember .., _ =>
    isTrue trivial

/-! ## The call -/

section
variable {db : GroupDb} {m : Moment} {g o n : Nat}

theorem passesOn_of_answer (ha : (reply m db (.transferGroupOwner g o n)).1 = true)
    (howner : db.owner g = some o) :
    PassesOn db (reply m db (.transferGroupOwner g o n)).2 g o n := by
  have hmoves := (answer_transfer.1 ha).1
  refine ⟨howner, ?_, fun k u hku => ?_⟩
  · rw [owner_transfer, if_pos ⟨rfl, howner, hmoves⟩]
  · rw [rank_transfer]
    split
    case isFalse => rfl
    case isTrue hk =>
      rw [if_neg fun hn => hku ⟨hk.1, .inr hn.1⟩, if_neg fun ho => hku ⟨hk.1, .inl ho.1⟩]

theorem reply_transfer_lost (hm : m.through 0 = false) :
    reply m db (.transferGroupOwner g o n) = (false, db) :=
  transfer_not_moved fun h => Bool.false_ne_true (hm.symm.trans h.1)

end

/-! ## The operation -/

/-- What the result of an operation says of its last call. -/
def lastOfTransfer : (op : GroupOp) → op.Result → Option (Made interface GroupOp) → Prop
  | .transfer o g n, r, last =>
    r = .ok () ↔ last = some ⟨.transfer o g n, .transferGroupOwner g o n, true⟩
  | _, _, _ => True

/-- A refusal after a check. -/
theorem lastOfTransfer_refused {o g n : Nat} {message : String} {c : Call} {a : c.Answer}
    (hc : c ≠ .transferGroupOwner g o n) :
    lastOfTransfer (.transfer o g n) (.error message) (some ⟨.transfer o g n, c, a⟩) :=
  iff_of_false (fun h => by cases h) fun h => hc (congrArg Made.call (Option.some.inj h))

theorem lastOfTransfer_kept :
    (Contract.ofLast lastOfTransfer : Contract interface GroupOp GroupOp.Result _).KeptBy
      GroupOp.prog := by
  intro op
  cases op with
  | transfer o g n =>
    refine ⟨True.intro, fun isOwner => ?_⟩
    cases isOwner with
    | false => exact lastOfTransfer_refused fun h => by cases h
    | true =>
      show Prog.Follows _ _ (if o = n then .ret _ else _) _
      refine Prog.follows_ite.2 ⟨fun _ => lastOfTransfer_refused fun h => (by cases h), fun _ => ?_⟩
      refine ⟨True.intro, fun isMember => ?_⟩
      cases isMember with
      | false => exact lastOfTransfer_refused fun h => by cases h
      | true =>
        refine ⟨True.intro, fun ok => ?_⟩
        cases ok with
        | false => exact iff_of_false (fun h => by cases h) fun h => by cases h
        | true => exact iff_of_true rfl rfl
  | _ => exact Prog.follows_of_forall (fun _ _ => True.intro) fun _ _ => True.intro

/-! ## Every interleaving -/

theorem transfersMean {θ : Type} [DecidableEq θ] (users : UniqueTable UserInfo.userId)
    {ls : List (WorkerStep θ GroupOp Moment)} {w : GroupWorkers θ}
    (h : Run (Workers.step GroupOp.prog reply) (Workers.guarded FindsOwner)
      (Workers.init (.fresh users)) ls w) : TransfersMean w.log := by
  have hj := Workers.journal lastOfTransfer_kept h
  refine ⟨fun l₁ t o g n r l₂ hlog => ?_, fun t op db g o n db' hmem => ?_,
    fun t op db g o n a db' hmem hstale => ?_⟩
  · rw [hlog] at hj
    refine hj.ret_done.trans ⟨fun hphase => ?_, fun ⟨db, db', hlast⟩ => phase_of_lastCall hlast⟩
    exact lastCall_of_phase hphase
  · obtain ⟨m, hG, hreply⟩ := hj.call_mem hmem
    have ha : (reply m db (.transferGroupOwner g o n)).1 = true := congrArg Prod.fst hreply
    have hdb' : (reply m db (.transferGroupOwner g o n)).2 = db' := congrArg Prod.snd hreply
    rw [← hdb']
    exact passesOn_of_answer ha (hG (answer_transfer.1 ha).1.1)
  · obtain ⟨m, hG, hreply⟩ := hj.call_mem hmem
    cases hm : m.through 0 with
    | true => exact absurd (hG hm) hstale
    | false =>
      have hlost : (false, db) = (a, db') := (reply_transfer_lost hm).symm.trans hreply
      exact ⟨(congrArg Prod.fst hlost).symm, (congrArg Prod.snd hlost).symm⟩

/-- One call after another of the worker `t`, whose statements all get through. -/
def callsOf {θ : Type} (t : θ) (n : Nat) : List (WorkerStep θ GroupOp Moment) :=
  List.replicate n (.call t (momentOf true))

/-- User 1 makes a group, and 2 and 3 join it. -/
def threeMembers : List (WorkerStep Bool GroupOp Moment) :=
  .start false (.create 1 "g" "") :: callsOf false 1 ++ .finish false ::
    .start false (.join 1 2) :: callsOf false 3 ++ .finish false ::
      .start false (.join 1 3) :: callsOf false 3 ++ [.finish false]

/-- The group goes to 2. -/
theorem transfersMean_once : ∃ w : GroupWorkers Bool,
    w.state.owner 1 = some 2 ∧ TransfersMean w.log := by
  have hrun : ((exec (Workers.guardedStep GroupOp.prog reply FindsOwner)
      (Workers.init (.fresh threeUsers))
      (threeMembers ++ .start true (.transfer 1 1 2) :: callsOf true 3 ++ [.finish true])).map
        fun w => w.state.owner 1) = some (some 2) := by
    decide
  obtain ⟨w, hw, howner⟩ := Option.map_eq_some_iff.1 hrun
  exact ⟨w, howner, transfersMean threeUsers (Workers.run_of_guardedStep hw)⟩

/-- A transfer by 1 that answered true when 3 owned the group. -/
def isStale {θ : Type} : GroupEvent θ → Bool
  | .call _ _ db (.transferGroupOwner 1 1 2) true _ => decide (db.owner 1 = some 3)
  | _ => false

/-- While user 1 passes the group on to 2, he passes it on to 3. -/
theorem not_transfersMean :
    ¬ ∀ (users : UniqueTable UserInfo.userId) (ls : List (WorkerStep Bool GroupOp Moment))
      (w : GroupWorkers Bool),
      Run (Workers.step GroupOp.prog reply) anyStep (Workers.init (.fresh users)) ls w →
        TransfersMean w.log := by
  intro h
  have hrun : ((exec (Workers.step GroupOp.prog reply)
      (Workers.init (.fresh threeUsers) : GroupWorkers Bool)
      (threeMembers ++ .start true (.transfer 1 1 2) :: callsOf true 2 ++
        .start false (.transfer 1 1 3) :: callsOf false 3 ++ .finish false :: callsOf true 1 ++
          [.finish true])).map fun w => w.log.any isStale) = some true := by
    decide
  obtain ⟨w, hw, hany⟩ := Option.map_eq_some_iff.1 hrun
  obtain ⟨e, he, hstale⟩ := List.any_eq_true.1 hany
  have hmean := h threeUsers _ w (exec_run hw)
  unfold isStale at hstale
  split at hstale
  case h_1 t op db db' =>
    have howner := (hmean.passed t op db 1 1 2 db' he).before
    rw [of_decide_eq_true hstale] at howner
    cases howner
  case h_2 => cases hstale

end ChatApp.Groups
