import EclServer.Library.Listing
import EclServer.Results.Totals
import EclServer.Tenants.Members

/-!
The list of members, a page at a time (`list_members` of `app/modules/tenants/service.py`).

* `listedMembers`, `memberCount`: the query of the rows leaves out deleted accounts, the query of the
  count does not. `listMembers`, `MayList`: an answer, with names that are equal in any order.
* `ShowsMembersOnce`: the pages show each member once, and their number and end are right.
* `members_paging_iff`: when they do.
-/

namespace EclServer.Tenants

open EclServer.Library EclServer.Auth EclServer.Results

/-! ### The service -/

structure MemberOut where
  id : String
  name : String
  email : String
  initials : String
  role : String
  status : String
  lastActiveAt : Option Time
  isYou : Bool
  deriving DecidableEq

structure MembersPage where
  data : List MemberOut
  pageMeta : PageMeta

/-- `max(Session.last_active_at)`. -/
def lastActiveAt (db : AuthDb) (userId : String) : Option Time :=
  ((db.sessions.filter (·.userId = userId)).map (·.lastActiveAt)).max?

/-- The memberships of a tenant. -/
def membershipsOf (db : AuthDb) (tenantId : String) : List TenantMembership :=
  db.memberships.filter (·.tenantId = tenantId)

/-- The memberships with their accounts, deleted ones left out. -/
def listedMembers (db : AuthDb) (tenantId : String) : List (TenantMembership × User) :=
  (membershipsOf db tenantId).flatMap fun m =>
    (db.users.filter fun u => u.id = m.userId ∧ u.deletedAt = none).map fun u => (m, u)

/-- The number that the page numbers are made of. -/
def memberCount (db : AuthDb) (tenantId : String) : ℕ := (membershipsOf db tenantId).length

section

variable {κ : Type} [LinearOrder κ] (env : ViewEnv) (collate : String → κ) (db : AuthDb)
  (tenantId currentUserId : String)

def memberOut (row : TenantMembership × User) : MemberOut where
  id := row.2.id
  name := row.2.name
  email := row.2.email
  initials := userInitials env row.2.name
  role := row.1.role
  status := row.1.status
  lastActiveAt := lastActiveAt db row.2.id
  isYou := row.2.id = currentUserId

/-- `ORDER BY name`, in the collation of the database. -/
def byName (row : TenantMembership × User) : κ := collate row.2.name

/-- A page of an order of the members. -/
def membersPage (perPage page : ℕ) (order : List (TenantMembership × User)) : MembersPage where
  data := (pageOf perPage order (page - 1)).map (memberOut env db currentUserId)
  pageMeta := pageMeta (memberCount db tenantId) page perPage

/-- `list_members`, with names that are equal in the order of the table. -/
def listMembers (perPage page : ℕ) : MembersPage :=
  membersPage env db tenantId currentUserId perPage page
    (sortByKey (byName collate) (listedMembers db tenantId))

/-- **An answer to the request for a page**, with names that are equal in any order. -/
def MayList (perPage page : ℕ) (answer : MembersPage) : Prop :=
  ∃ order, IsOrder (byName collate) (listedMembers db tenantId) order ∧
    answer = membersPage env db tenantId currentUserId perPage page order

end

/-- The pages show each member once, `has_next` tells whether a later page has members, and `total`
how many there are. -/
structure ShowsMembersOnce (members : List String) (answers : ℕ → MembersPage) : Prop where
  each : ((List.range (answers 1).pageMeta.pages).flatMap fun p =>
    (answers (p + 1)).data.map (·.id)).Perm members
  next : ∀ page, 1 ≤ page → ((answers page).pageMeta.hasNext = true ↔
    ∃ later, page < later ∧ (answers later).data ≠ [])
  total : ∀ page, 1 ≤ page → (answers page).pageMeta.total = members.length

/-! ### Paging -/

section Paging

variable {κ : Type} [LinearOrder κ] {env : ViewEnv} {collate : String → κ} {db : AuthDb}
  {tenantId currentUserId : String} {perPage : ℕ}

lemma isOrder_sortByKey {α : Type} (key : α → κ) (rows : List α) :
    IsOrder key rows (sortByKey key rows) :=
  ⟨sortByKey_perm key rows, sortByKey_sorted key rows⟩

lemma mayList_listMembers (page : ℕ) :
    MayList env collate db tenantId currentUserId perPage page
      (listMembers env collate db tenantId currentUserId perPage page) :=
  ⟨_, isOrder_sortByKey _ _, rfl⟩

/-- Ids are keys: a membership has one account at most. -/
lemma length_accounts_le (hids : (db.users.map (·.id)).Nodup) (userId : String) :
    (db.users.filter fun u => u.id = userId ∧ u.deletedAt = none).length ≤ 1 :=
  length_filter_le_one_of_key _ hids fun _ _ hu hv =>
    (of_decide_eq_true hu).1.trans (of_decide_eq_true hv).1.symm

/-- The accounts listed are accounts of memberships, in their order. -/
lemma map_id_listedMembers_sublist (hids : (db.users.map (·.id)).Nodup) :
    ((listedMembers db tenantId).map (·.2.id)).Sublist
      ((membershipsOf db tenantId).map (·.userId)) := by
  have haccount : ∀ m : TenantMembership, (((db.users.filter fun u =>
      u.id = m.userId ∧ u.deletedAt = none).map fun u => (m, u)).map (·.2.id)).Sublist [m.userId] := by
    intro m
    have hle := length_accounts_le hids m.userId
    cases haccounts : db.users.filter fun u => u.id = m.userId ∧ u.deletedAt = none with
    | nil => exact List.nil_sublist _
    | cons u us =>
        have hu : u ∈ db.users.filter fun u => u.id = m.userId ∧ u.deletedAt = none := by
          rw [haccounts]
          exact List.mem_cons_self
        have hid : u.id = m.userId := (of_decide_eq_true (List.mem_filter.mp hu).2).1
        rw [haccounts, List.length_cons] at hle
        obtain rfl : us = [] := List.length_eq_zero_iff.mp (by omega)
        rw [← hid]
        exact List.Sublist.refl _
  rw [listedMembers]
  induction membershipsOf db tenantId with
  | nil => exact List.nil_sublist _
  | cons m ms ih =>
      rw [List.flatMap_cons, List.map_append, List.map_cons]
      exact (haccount m).append ih

/-- The count is that of the rows exactly where every membership has its account. -/
lemma memberCount_eq_iff (hids : (db.users.map (·.id)).Nodup) :
    memberCount db tenantId = (listedMembers db tenantId).length ↔
      ∀ m ∈ db.memberships, m.tenantId = tenantId →
        ∃ u ∈ db.users, u.id = m.userId ∧ u.deletedAt = none := by
  have hall : ∀ ms : List TenantMembership, ms.length = (ms.flatMap fun m => (db.users.filter
        fun u => u.id = m.userId ∧ u.deletedAt = none).map fun u => (m, u)).length ↔
      ∀ m ∈ ms, ∃ u ∈ db.users, u.id = m.userId ∧ u.deletedAt = none := by
    intro ms
    have hle : ∀ ms : List TenantMembership, (ms.flatMap fun m => (db.users.filter fun u =>
        u.id = m.userId ∧ u.deletedAt = none).map fun u => (m, u)).length ≤ ms.length := by
      intro ms
      induction ms with
      | nil => exact le_rfl
      | cons m ms ih =>
          have hone := length_accounts_le hids m.userId
          rw [List.flatMap_cons, List.length_append, List.length_map, List.length_cons]
          omega
    induction ms with
    | nil => simp
    | cons m ms ih =>
        have hone := length_accounts_le hids m.userId
        have hrest := hle ms
        rw [List.forall_mem_cons, List.flatMap_cons, List.length_append, List.length_map,
          List.length_cons]
        have hsome : (∃ u ∈ db.users, u.id = m.userId ∧ u.deletedAt = none) ↔
            0 < (db.users.filter fun u => u.id = m.userId ∧ u.deletedAt = none).length := by
          rw [List.length_pos_iff_exists_mem]
          simp only [List.mem_filter, decide_eq_true_eq]
        rw [hsome]
        refine Iff.trans ?_ (and_congr_right fun _ => ih)
        omega
  rw [memberCount, listedMembers, hall]
  simp only [membershipsOf, List.mem_filter, decide_eq_true_eq, and_imp]

/-- The answers are pages of orders. -/
lemma showsMembersOnce_iff {orders : ℕ → List (TenantMembership × User)} :
    ShowsMembersOnce ((listedMembers db tenantId).map (·.2.id))
        (fun page => membersPage env db tenantId currentUserId perPage page (orders page)) ↔
      ShowsAll (fun row : TenantMembership × User => row.2.id) (listedMembers db tenantId)
        (memberCount db tenantId) perPage (listingPage orders perPage) := by
  have hdata : ∀ page, ((membersPage env db tenantId currentUserId perPage page (orders page)).data.map
      (·.id)) = (listingPage orders perPage page).map (·.2.id) := by
    intro page
    rw [membersPage, List.map_map]
    rfl
  have hempty : ∀ page, (membersPage env db tenantId currentUserId perPage page
      (orders page)).data ≠ []
      ↔ listingPage orders perPage page ≠ [] := fun page => List.map_eq_nil_iff.not
  constructor
  · rintro ⟨heach, hnext, htotal⟩
    simp only [hdata, hempty] at heach hnext
    refine ⟨?_, fun page hpage => ?_, ?_⟩
    · rw [List.map_flatMap]
      exact heach
    · rw [← hnext page hpage]
      exact decide_eq_true_iff.symm
    · exact (htotal 1 le_rfl).trans (List.length_map _)
  · rintro ⟨heach, hnext, htotal⟩
    refine ⟨?_, fun page hpage => ?_, fun page _ => ?_⟩
    · simp only [hdata]
      rw [List.map_flatMap] at heach
      exact heach
    · simp only [hempty]
      rw [← hnext page hpage]
      exact decide_eq_true_iff
    · exact htotal.trans (List.length_map _).symm

lemma ShowsMembersOnce.congr {members : List String} {answers answers' : ℕ → MembersPage}
    (h : ShowsMembersOnce members answers) (hsame : ∀ page, 1 ≤ page → answers' page = answers page) :
    ShowsMembersOnce members answers' where
  each := by
    have heach := h.each
    simp only [← hsame _ (Nat.le_add_left 1 _)] at heach
    exact heach
  next := by
    intro page hpage
    rw [hsame page hpage, h.next page hpage]
    refine exists_congr fun later => and_congr_right fun hlater => ?_
    rw [hsame later (by omega)]
  total := fun page hpage => (hsame page hpage).symm ▸ h.total page hpage

/-- **Paging shows each member once**, tells where the members end and how many there are, in
whatever orders the database answers, exactly where no page boundary falls among members of one
name and no membership belongs to a deleted account. -/
theorem members_paging_iff (hperPage : 1 ≤ perPage) (hids : (db.users.map (·.id)).Nodup)
    (hmembers : ((membershipsOf db tenantId).map (·.userId)).Nodup) :
    (∀ answers : ℕ → MembersPage, (∀ page, 1 ≤ page →
        MayList env collate db tenantId currentUserId perPage page (answers page)) →
        ShowsMembersOnce ((listedMembers db tenantId).map (·.2.id)) answers)
      ↔ TiesApart (byName collate) perPage (listedMembers db tenantId) ∧
        ∀ m ∈ db.memberships, m.tenantId = tenantId →
          ∃ u ∈ db.users, u.id = m.userId ∧ u.deletedAt = none := by
  rw [← memberCount_eq_iff hids, ← showsAll_iff (isOrder_sortByKey _ _)
    (hmembers.sublist (map_id_listedMembers_sublist hids)) hperPage]
  constructor
  · intro hall orders horders
    exact showsMembersOnce_iff.mp (hall _ fun page hpage => ⟨orders page, horders page hpage, rfl⟩)
  · intro hall answers hanswers
    choose! orders horders hpages using hanswers
    exact (showsMembersOnce_iff.mpr (hall orders horders)).congr hpages

end Paging

/-! ### Two members of one name -/

/-- A workspace with two accounts of one name. -/
def namesakes : AuthDb where
  users :=
    [{ id := "u1", email := "a@bank.example", name := "Ana Li", hashedPassword := "" },
      { id := "u2", email := "b@bank.example", name := "Ana Li", hashedPassword := "" }]
  memberships := [sampleAdmin "m1" "u1", sampleAdmin "m2" "u2"]

/-- One a page, the same member may be shown on both pages. -/
theorem members_paging_iff_sample :
    ¬ ∀ answers : ℕ → MembersPage, (∀ page, 1 ≤ page →
        MayList totalsEnv id namesakes "t1" "u1" 1 page (answers page)) →
      ShowsMembersOnce ((listedMembers namesakes "t1").map (·.2.id)) answers := by
  rw [members_paging_iff le_rfl (by decide) (by decide)]
  rintro ⟨hties, -⟩
  rcases hties "Ana Li" 1 with hfront | hback
  · exact absurd hfront (by decide)
  · exact absurd hback (by decide)

end EclServer.Tenants
