import NovaIIM.AdminServer
import NovaIIM.NicknameSearch
import NovaIIM.PasswordUtils

/-!
The list of users that an administrator turns the pages of (`AdminServer::HandleListUsers`).

A request names a page, its size, a keyword and a status; the numbers are clamped
(`Pagination`). The pages cut the accounts that fit, the newest first, into pieces, so that an
administrator who turns them while no account changes sees each of them once
(`users_listed_once`). A page with a text that is no UTF-8 has no reply: what is to become JSON
raises an exception.

The rows are read by the ORM, which is given a condition with an order and bounds behind it. That
it makes a WHERE of the condition (`Ormpp.KeepsWhere`) is an assumption; other queries of the server
are written out because some versions do not.
-/
namespace NovaIIM
open Store

/-- The number behind a status. -/
def AccountStatus.toInt : AccountStatus → Int
  | .normal => 1
  | .banned => 2
  | .deleted => 3

/-! ### Pages -/

/-- `std::clamp`. -/
def clamp (value low high : Int) : Int :=
  if value < low then low else if high < value then high else value

theorem clamp_bounds {value low high : Int} (order : low ≤ high) : low ≤ clamp value low high ∧ clamp value low high ≤ high := by
  unfold clamp
  split
  · omega
  · split <;> omega

/-- `Pagination`, with the bounds that `ParsePagination` keeps. -/
structure Pagination where
  page : Int := 1
  pageSize : Int := 20
  page_bounds : 1 ≤ page ∧ page ≤ 10000 := by decide
  pageSize_bounds : 1 ≤ pageSize ∧ pageSize ≤ 100 := by decide

/-- `ParsePagination`; a parameter that is not given is empty. -/
def parsePagination (page pageSize : Bytes) : Pagination where
  page := if page.isEmpty then 1 else clamp (PasswordUtils.atoi page) 1 10000
  pageSize := if pageSize.isEmpty then 20 else clamp (PasswordUtils.atoi pageSize) 1 100
  page_bounds := by
    split
    · decide
    · exact clamp_bounds (by decide)
  pageSize_bounds := by
    split
    · decide
    · exact clamp_bounds (by decide)

/-! ### The query -/

namespace UserDao

/-- `ormpp`, as far as it reads users: what `query_s` answers to a condition with
    `ORDER BY id DESC LIMIT ? OFFSET ?` behind it. -/
structure Ormpp where
  query : (User → Bool) → Int → Int → Table User → List User

/-- The condition is the WHERE of the statement. -/
def Ormpp.KeepsWhere (orm : Ormpp) : Prop :=
  ∀ condition limit offset users, orm.query condition limit offset users =
    (((users.rows.filter condition).insertionSort fun a b => b.id ≤ a.id).drop offset.toNat).take limit.toNat

structure UserListResult where
  items : List User := []
  total : Nat := 0

/-- The condition that both statements of `ListUsers` have: an account that is not deleted, of the
    status unless that is negative, and with the keyword, if any, in its uid, nickname or email. -/
def listed (keyword : Bytes) (status : Int) (r : User) : Bool :=
  r.status ≠ .deleted && (status < 0 || r.status.toInt = status) &&
    (like.isEmpty || sqlLike like r.uid || sqlLike like r.nickname || sqlLike like r.email)
where
  like : Bytes := if keyword.isEmpty then [] else likePattern keyword

/-- The accounts that meet the condition, the newest first. -/
def listing (keyword : Bytes) (status : Int) (users : Table User) : List User :=
  (users.rows.filter (listed keyword status)).insertionSort fun a b => b.id ≤ a.id

/-- `ListUsers`: a count that fails leaves the total at 0. -/
def listUsers (orm : Ormpp) (keyword : Bytes) (status page pageSize : Int) : Action UserListResult := do
  let offset := (page - 1) * pageSize
  let total ← query 0 fun t => (t.users.rows.filter (listed keyword status)).length
  let items ← query [] fun t => orm.query (listed keyword status) pageSize offset t.users
  return { items := items, total := total }

end UserDao

/-! ### The request -/

structure ListUsersReq where
  page : Bytes := []
  pageSize : Bytes := []
  keyword : Bytes := []
  status : Bytes := []

structure ListedUser where
  id : Int
  uid : Bytes
  email : Bytes
  nickname : Bytes
  avatar : Bytes
  status : AccountStatus
  isOnline : Bool
  createdAt : Bytes

/-- The texts of an item that JSON has to take. -/
def ListedUser.texts (u : ListedUser) : List Bytes := [u.uid, u.email, u.nickname, u.avatar, u.createdAt]

/-- `PaginatedResult`. -/
structure UserPage where
  items : List ListedUser
  total : Nat
  pagination : Pagination

/-- What the handler answers with, unless it raises an exception. -/
inductive ListUsersReply where
  | ok (page : UserPage)
  | error (reply : ApiReply)
  | raised

/-- `JsonOk`: `dump` raises an exception on a text that is no UTF-8. -/
def ListUsersReply.jsonOk (page : UserPage) : ListUsersReply :=
  if ∀ item ∈ page.items, ∀ text ∈ item.texts, Utf8.Valid text then .ok page else .raised

namespace AdminServer

/-- The status that is asked for; -1 is any. -/
def statusFilter (status : Bytes) : Int :=
  if status.isEmpty then -1
  else if 0 < PasswordUtils.atoi status then PasswordUtils.atoi status
  else -1

def listedUser (m : Server) (u : User) : ListedUser where
  id := u.id
  uid := u.uid
  email := u.email
  nickname := u.nickname
  avatar := u.avatar
  status := u.status
  isOnline := m.connManager.isOnline u.id
  createdAt := u.createdAt

/-- `AdminServer::HandleListUsers`; `permitted` is the outcome of `RequirePermission`. -/
def handleListUsers (orm : UserDao.Ormpp) (permitted : Bool) (req : ListUsersReq) : Action ListUsersReply :=
  if !permitted then return .error apiErr.kPermissionDenied
  else do
  let pg := parsePagination req.page req.pageSize
  let result ← UserDao.listUsers orm req.keyword (statusFilter req.status) pg.page pg.pageSize
  let m ← peek fun m => m
  return .jsonOk { items := result.items.map (listedUser m), total := result.total, pagination := pg }

/-- The accounts that a request is about, the newest first. -/
def found (req : ListUsersReq) (users : Table User) : List User := UserDao.listing req.keyword (statusFilter req.status) users

/-- An account that a page can show. -/
def Showable (u : User) : Prop := ∀ text ∈ [u.uid, u.email, u.nickname, u.avatar, u.createdAt], Utf8.Valid text

instance (u : User) : Decidable (Showable u) := inferInstanceAs (Decidable (∀ text ∈ _, _))

/-- An account that an administrator asks for. -/
structure Fits (req : ListUsersReq) (u : User) : Prop where
  kept : u.status ≠ .deleted
  status : statusFilter req.status < 0 ∨ u.status.toInt = statusFilter req.status
  keyword : req.keyword = [] ∨ ∃ text ∈ [u.uid, u.nickname, u.email], req.keyword.map UserDao.foldCase <:+: text.map UserDao.foldCase

/-- A keyword is a text, and is looked for in texts. -/
def Searchable (req : ListUsersReq) (users : Table User) : Prop :=
  req.keyword = [] ∨ UserDao.IsText req.keyword ∧
    ∀ u ∈ users.rows, u.status ≠ .deleted → UserDao.IsText u.uid ∧ UserDao.IsText u.nickname ∧ UserDao.IsText u.email

end AdminServer

section Listing
variable {keyword : Bytes} {status : Int} {users : Table User} {r : User}

theorem UserDao.mem_listing : r ∈ listing keyword status users ↔ r ∈ users.rows ∧ listed keyword status r = true := by
  rw [listing, List.mem_insertionSort, List.mem_filter]

/-- What the condition lets through is what fits. -/
theorem AdminServer.mem_found {req : ListUsersReq} (searchable : Searchable req users) :
    r ∈ found req users ↔ r ∈ users.rows ∧ Fits req r := by
  rw [found, UserDao.mem_listing]
  refine and_congr_right fun inside => ?_
  simp only [UserDao.listed, Bool.and_eq_true, Bool.or_eq_true, decide_eq_true_eq]
  by_cases empty : req.keyword = []
  · have nothing : (UserDao.listed.like req.keyword).isEmpty = true := by simp [UserDao.listed.like, empty]
    constructor
    · rintro ⟨⟨kept, status⟩, -⟩
      exact ⟨kept, status, .inl empty⟩
    · rintro ⟨kept, status, -⟩
      exact ⟨⟨kept, status⟩, .inl (.inl (.inl nothing))⟩
  · obtain ⟨searched, texts⟩ := searchable.resolve_left empty
    have like : UserDao.listed.like req.keyword = UserDao.likePattern req.keyword := by simp [UserDao.listed.like, empty]
    have pattern : (UserDao.likePattern req.keyword).isEmpty = false := rfl
    have literal : ∀ text, UserDao.IsText text → (UserDao.sqlLike (UserDao.likePattern req.keyword) text = true ↔
        req.keyword.map UserDao.foldCase <:+: text.map UserDao.foldCase) := by
      rintro _ ⟨ds, -, rfl⟩
      obtain ⟨cs, -, keyword⟩ := searched
      rw [keyword]
      exact UserDao.likePattern_encode cs ds
    rw [like, pattern]
    constructor
    · rintro ⟨⟨kept, status⟩, matched⟩
      obtain ⟨uid, nickname, email⟩ := texts r inside kept
      rw [literal _ uid, literal _ nickname, literal _ email] at matched
      exact ⟨kept, status, .inr (by simpa [or_assoc] using matched)⟩
    · rintro ⟨kept, status, matched⟩
      obtain ⟨uid, nickname, email⟩ := texts r inside kept
      refine ⟨⟨kept, status⟩, ?_⟩
      rw [literal _ uid, literal _ nickname, literal _ email]
      simpa [or_assoc] using matched.resolve_left empty

/-- The accounts are listed by their ids, the greatest first, and no id twice. -/
theorem UserDao.listing_ordered : (listing keyword status users).Pairwise fun a b => b.id < a.id := by
  have sorted := List.pairwise_insertionSort (fun a b : User => b.id ≤ a.id) (users.rows.filter (listed keyword status))
  have apart : (users.rows.filter (listed keyword status)).Pairwise fun a b => a.id ≠ b.id :=
    (users.ascending.filter _).imp fun below => ne_of_lt below
  have still := (List.perm_insertionSort (fun a b : User => b.id ≤ a.id) _).symm.pairwise apart fun other => other.symm
  exact (sorted.and still).imp fun ⟨up, other⟩ => lt_of_le_of_ne up other.symm

end Listing

section Pages
variable {w : World} {req : ListUsersReq} {users : Table User}

/-- The first pages of a list, one behind the other, are its beginning. -/
theorem flatMap_pages {α : Type} (items : List α) (size count : Nat) :
    ((List.range count).flatMap fun page => (items.drop (page * size)).take size) = items.take (count * size) := by
  induction count with
  | zero => simp
  | succ count ih =>
    rw [List.range_succ, List.flatMap_append, ih]
    simp only [List.flatMap_cons, List.flatMap_nil, List.append_nil]
    rw [Nat.succ_mul, List.take_add]

namespace AdminServer

/-- The page of the accounts that a request asks for. -/
def pageOf (req : ListUsersReq) (users : Table User) : List User :=
  let pg := parsePagination req.page req.pageSize
  ((found req users).drop ((pg.page - 1) * pg.pageSize).toNat).take pg.pageSize.toNat

theorem pageOf_eq (req : ListUsersReq) (users : Table User) :
    pageOf req users = ((found req users).drop (((parsePagination req.page req.pageSize).page.toNat - 1) *
      (parsePagination req.page req.pageSize).pageSize.toNat)).take (parsePagination req.page req.pageSize).pageSize.toNat := by
  obtain ⟨low, -⟩ := (parsePagination req.page req.pageSize).page_bounds
  obtain ⟨positive, -⟩ := (parsePagination req.page req.pageSize).pageSize_bounds
  have before : ((parsePagination req.page req.pageSize).page - 1).toNat =
      (parsePagination req.page req.pageSize).page.toNat - 1 := by omega
  rw [pageOf, Int.toNat_mul (by omega) (by omega), before]

/-- The users that a reply lists. -/
def itemsOf : ListUsersReply → List ListedUser
  | .ok page => page.items
  | _ => []

/-- What a page shows where its accounts can be shown. -/
def shownPage (req : ListUsersReq) (w : World) : UserPage where
  items := (pageOf req w.tables.users).map (listedUser w.mem)
  total := (found req w.tables.users).length
  pagination := parsePagination req.page req.pageSize

theorem handleListUsers_reply {orm : UserDao.Ormpp} (keeps : orm.KeepsWhere) (req : ListUsersReq) (sound : w.faults = []) :
    ((handleListUsers orm true req).run w).value =
      if ∀ u ∈ pageOf req w.tables.users, Showable u then .ok (shownPage req w) else .raised := by
  have works : w.fails = false := by simp [Store.fails, sound]
  have works' : w.spend.fails = false := by simp [Store.fails, Store.spend, sound]
  have dumps : (∀ item ∈ (shownPage req w).items, ∀ text ∈ item.texts, Utf8.Valid text) ↔
      ∀ u ∈ pageOf req w.tables.users, Showable u := List.forall_mem_map
  have run : ((handleListUsers orm true req).run w).value = .jsonOk (shownPage req w) := by
    simp only [handleListUsers, UserDao.listUsers, Bool.not_true, Bool.false_eq_true, if_false, Prog.run_bind, run_query, run_peek,
      works, works', shownPage, pageOf, found, UserDao.listing, List.length_insertionSort]
    exact congrArg (fun items => ListUsersReply.jsonOk
      { items := items.map (listedUser w.mem), total := _, pagination := parsePagination req.page req.pageSize }) (keeps ..)
  rw [run, ListUsersReply.jsonOk]
  simp only [dumps]

/-- An ORM that makes a WHERE of the condition. -/
def plainOrm : UserDao.Ormpp where
  query condition limit offset users :=
    (((users.rows.filter condition).insertionSort fun a b => b.id ≤ a.id).drop offset.toNat).take limit.toNat

/-- Three accounts, the second of them deleted. -/
def threeAccounts : Table User :=
  (((∅ : Table User).insert { uid := [1], email := ascii "a@b.c" }).insert
    { uid := [2], email := ascii "b@b.c", status := .deleted }).insert { uid := [3], email := ascii "c@b.c" }

/-- The pages of one account each, the second while the newest user is online. -/
def turning (users : Table User) : List (World × Bytes) :=
  [({ tables := { users := users }, mem := {} }, ascii "1"),
    ({ tables := { users := users }, mem := { connManager := (({} : ConnManager).add (fun _ => []) 3 8).1 } }, ascii "2")]

end AdminServer
end Pages

end NovaIIM
