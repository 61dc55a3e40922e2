import Mathlib.Data.List.DropRight
import EclServer.Auth.Refresh
import EclServer.Engine.Lgd
import EclServer.Library.Columns

/-!
Collateral types: the table of `app/modules/collateral/models.py` and the services of
`app/modules/collateral/service.py`, with the collateral part of `complete_onboarding`.

* `CollateralType.store`: what the columns keep of a row. `CollateralTable`: the rows, deleted ones
  among them, with the unique index on the live names, the stripped names every service writes
  and the numbers that the columns hold.
* `createCollateralType`, `batchCreateCollateralTypes`, `updateCollateralType`,
  `deleteCollateralType`, `replaceCollateralTypes`: the writes, each from table to table.
* `batchCreateCollateralTypes_eq_ok`: when a batch is created.
* `loadCollateralConfig`: what the compute stage reads.
-/

namespace EclServer.Tenants

open EclServer.Library EclServer.Auth EclServer.Engine

/-! ### Stripped names -/

/-- Stripping twice is stripping once. -/
lemma pyStrip_pyStrip (s : String) : pyStrip (pyStrip s) = pyStrip s := by
  set l := s.toList.dropWhile pySpace with hl
  have hright : pyStrip s = String.ofList (l.rdropWhile pySpace) := rfl
  have hleft : (l.rdropWhile pySpace).dropWhile pySpace = l.rdropWhile pySpace := by
    rw [List.dropWhile_eq_self_iff]
    intro hpos
    have hpre : l.rdropWhile pySpace <+: l := List.rdropWhile_prefix _ _
    have hlen := hpre.length_le
    have hhead := List.dropWhile_eq_self_iff.mp (List.dropWhile_idempotent pySpace s.toList)
      (by rw [← hl]; omega)
    rw [hpre.getElem hpos]
    exact hhead
  rw [hright]
  change String.ofList (((String.ofList (l.rdropWhile pySpace)).toList.dropWhile pySpace).rdropWhile
    pySpace) = _
  rw [String.toList_ofList, hleft, List.rdropWhile_idempotent]

/-! ### The table -/

structure CollateralType where
  id : String
  tenantId : String
  name : String
  haircut : ℚ
  timeToRealize : ℤ
  createdByUserId : String
  deletedAt : Option Time := none
  deriving DecidableEq, Repr

/-- What the columns keep of a row: the haircut is `NUMERIC(5,2)`, the time to realize
`INTEGER`. -/
def CollateralType.store (t : CollateralType) : Except String CollateralType := do
  let haircut ← numeric 5 2 t.haircut
  let timeToRealize ← integer t.timeToRealize
  return { t with haircut := haircut, timeToRealize := timeToRealize }

lemma CollateralType.store_eq_ok {t t' : CollateralType} :
    t.store = .ok t' ↔ ∃ haircut, numeric 5 2 t.haircut = .ok haircut ∧
      (-2 ^ 31 ≤ t.timeToRealize ∧ t.timeToRealize < 2 ^ 31) ∧
        t' = { t with haircut := haircut } := by
  rw [CollateralType.store, bind_eq_ok]
  refine exists_congr fun haircut => and_congr_right fun _ => ?_
  rw [bind_eq_ok]
  constructor
  · rintro ⟨months, hmonths, h⟩
    obtain ⟨hfits, rfl⟩ := integer_eq_ok_iff.mp hmonths
    exact ⟨hfits, (Except.ok.inj h).symm⟩
  · rintro ⟨hfits, rfl⟩
    exact ⟨_, integer_eq_ok_iff.mpr ⟨hfits, rfl⟩, rfl⟩

/-- A stored row is stored as it is. -/
lemma CollateralType.store_idem {t t' : CollateralType} (h : t.store = .ok t') :
    t'.store = .ok t' := by
  obtain ⟨haircut, hhaircut, hfits, rfl⟩ := CollateralType.store_eq_ok.mp h
  exact CollateralType.store_eq_ok.mpr ⟨haircut, numeric_idem hhaircut, hfits, rfl⟩

/-- `deleted_at IS NULL`. -/
def CollateralType.isLive (t : CollateralType) : Bool := t.deletedAt = none

/-- `collateral_types_tenant_name_unique_idx`: no two live rows of a tenant have one name. -/
def LiveUnique (rows : List CollateralType) : Prop :=
  ((rows.filter CollateralType.isLive).map fun t => (t.tenantId, t.name)).Nodup

instance (rows : List CollateralType) : Decidable (LiveUnique rows) :=
  inferInstanceAs (Decidable (List.Nodup _))

@[ext] structure CollateralTable where
  rows : List CollateralType := []
  live_unique : LiveUnique rows := by exact List.nodup_nil
  stripped : ∀ t ∈ rows, pyStrip t.name = t.name := by simp
  stored : ∀ t ∈ rows, t.store = .ok t := by simp

namespace CollateralTable

variable (table : CollateralTable) (tenantId : String)

/-- The rows of a tenant, without the deleted ones. -/
def live : List CollateralType := table.rows.filter fun t => t.tenantId = tenantId ∧ t.isLive

/-- The names of the deleted rows of a tenant. -/
def deletedNames : List String :=
  (table.rows.filter fun t => t.tenantId = tenantId ∧ ¬ t.isLive).map (·.name)

/-- `_allowed_collateral`. -/
def allowedCollateral : List String := (table.live tenantId).map (·.name)

/-- `_load_collateral_config`; the haircut is stored in percent. -/
def loadCollateralConfig : List CollateralConfig :=
  (table.live tenantId).map fun t => ⟨t.name, t.haircut / 100, t.timeToRealize⟩

lemma map_name_loadCollateralConfig :
    (table.loadCollateralConfig tenantId).map (·.name) = table.allowedCollateral tenantId := by
  rw [loadCollateralConfig, allowedCollateral, List.map_map]
  rfl

variable {table tenantId}

lemma mem_allowedCollateral {name : String} :
    name ∈ table.allowedCollateral tenantId
      ↔ ∃ t ∈ table.rows, (t.tenantId = tenantId ∧ t.isLive) ∧ t.name = name := by
  simp [allowedCollateral, live, and_assoc]

lemma mem_deletedNames {name : String} :
    name ∈ table.deletedNames tenantId
      ↔ ∃ t ∈ table.rows, (t.tenantId = tenantId ∧ ¬ t.isLive) ∧ t.name = name := by
  simp [deletedNames, and_assoc]

lemma pyStrip_of_allowed {name : String} (h : name ∈ table.allowedCollateral tenantId) :
    pyStrip name = name := by
  obtain ⟨t, ht, -, rfl⟩ := mem_allowedCollateral.mp h
  exact table.stripped t ht

lemma pyStrip_of_deleted {name : String} (h : name ∈ table.deletedNames tenantId) :
    pyStrip name = name := by
  obtain ⟨t, ht, -, rfl⟩ := mem_deletedNames.mp h
  exact table.stripped t ht

end CollateralTable

/-! ### Requests -/

/-- What a request says of a new type. -/
structure CollateralItem where
  name : String
  haircut : ℚ
  timeToRealize : ℤ
  haircut_range : 0 ≤ haircut ∧ haircut ≤ 100
  timeToRealize_nonneg : 0 ≤ timeToRealize

structure CreateCollateralTypeRequest extends CollateralItem where
  name_length : 2 ≤ name.length ∧ name.length ≤ 100
  haircut_places : (haircut * 100).den = 1

/-- The checks of the request model on values from the code. -/
def CreateCollateralTypeRequest.parse (name : String) (haircut : ℚ) (timeToRealize : ℤ) :
    Except ECLException CreateCollateralTypeRequest :=
  if h : (0 ≤ haircut ∧ haircut ≤ 100) ∧ 0 ≤ timeToRealize ∧
      (2 ≤ name.length ∧ name.length ≤ 100) ∧ (haircut * 100).den = 1 then
    .ok ⟨⟨name, haircut, timeToRealize, h.1, h.2.1⟩, h.2.2.1, h.2.2.2⟩
  else .error unexpectedError

structure OnboardingCollateralIn extends CollateralItem where
  name_length : 1 ≤ name.length ∧ name.length ≤ 100

structure UpdateCollateralTypeRequest where
  name : Option String := none
  haircut : Option ℚ := none
  timeToRealize : Option ℤ := none

def collateralNameTaken (name : String) : ECLException :=
  { code := "COLLATERAL_NAME_TAKEN"
    detail := "A collateral type named '" ++ name ++ "' already exists in this workspace."
    statusCode := 409
    field := some "name" }

def collateralNamesTaken (taken : List String) : ECLException :=
  { code := "COLLATERAL_NAME_TAKEN"
    detail := "Collateral types already exist: " ++ ", ".intercalate (sortByKey id taken)
    statusCode := 409 }

def duplicateNames : ECLException :=
  { code := "DUPLICATE_NAMES", detail := "Duplicate collateral type names in batch." }

def collateralNotFound : ECLException :=
  { code := "RESOURCE_NOT_FOUND", detail := "Collateral type not found.", statusCode := 404 }

/-! ### The services -/

/-- Rows that are stored keep their names. -/
lemma stripped_of_store {rows stored : List CollateralType}
    (h : rows.mapM CollateralType.store = .ok stored)
    (hstripped : ∀ t ∈ rows, pyStrip t.name = t.name) : ∀ t ∈ stored, pyStrip t.name = t.name := by
  intro t ht
  obtain ⟨row, hrow, hstore⟩ := exists_of_mem_mapM h ht
  obtain ⟨haircut, -, -, rfl⟩ := CollateralType.store_eq_ok.mp hstore
  exact hstripped row hrow

lemma store_of_stored {rows stored : List CollateralType}
    (h : rows.mapM CollateralType.store = .ok stored) : ∀ t ∈ stored, t.store = .ok t := by
  intro t ht
  obtain ⟨row, -, hstore⟩ := exists_of_mem_mapM h ht
  exact CollateralType.store_idem hstore

/-- A flush: the rows reach the database where the columns hold their numbers and the index on
live names admits them. Rows that are not written are stored already, so all are taken. -/
def flush (rows : List CollateralType) (hstripped : ∀ t ∈ rows, pyStrip t.name = t.name) :
    Except ECLException CollateralTable :=
  match hstore : rows.mapM CollateralType.store with
  | .error _ => .error unexpectedError
  | .ok stored =>
      if hunique : LiveUnique stored then
        .ok ⟨stored, hunique, stripped_of_store hstore hstripped, store_of_stored hstore⟩
      else .error unexpectedError

/-- The row a request adds. -/
def newCollateralType (id tenantId userId name : String) (haircut : ℚ) (timeToRealize : ℤ) :
    CollateralType :=
  { id := id, tenantId := tenantId, name := pyStrip name, haircut := haircut
    timeToRealize := timeToRealize, createdByUserId := userId }

lemma stripped_append {table : CollateralTable} {new : List CollateralType}
    (hnew : ∀ t ∈ new, pyStrip t.name = t.name) :
    ∀ t ∈ table.rows ++ new, pyStrip t.name = t.name := by
  intro t ht
  rcases List.mem_append.mp ht with h | h
  · exact table.stripped t h
  · exact hnew t h

/-- `_check_name_unique`. -/
def checkNameUnique (table : CollateralTable) (tenantId name : String)
    (excludeId : Option String) : Except ECLException Unit :=
  if (table.live tenantId).any fun t => t.name = pyStrip name ∧ some t.id ≠ excludeId then
    .error (collateralNameTaken name)
  else .ok ()

/-- `create_collateral_type`. -/
def createCollateralType (newUlid tenantId userId : String) (req : CreateCollateralTypeRequest)
    (table : CollateralTable) : Except ECLException CollateralTable := do
  checkNameUnique table tenantId req.name none
  flush (table.rows
      ++ [newCollateralType newUlid tenantId userId req.name req.haircut req.timeToRealize])
    (stripped_append (by simp [newCollateralType, pyStrip_pyStrip]))

/-- The rows of a batch. -/
def batchRows (newUlid : ℕ → String) (tenantId userId : String)
    (items : List CollateralItem) : List CollateralType :=
  items.mapIdx fun i item =>
    newCollateralType (newUlid i) tenantId userId item.name item.haircut item.timeToRealize

lemma stripped_batchRows {newUlid : ℕ → String} {tenantId userId : String}
    {items : List CollateralItem} :
    ∀ t ∈ batchRows newUlid tenantId userId items, pyStrip t.name = t.name := by
  intro t ht
  obtain ⟨i, hi, rfl⟩ := List.mem_mapIdx.mp ht
  exact pyStrip_pyStrip _

/-- `batch_create_collateral_types`; `len(names) != len(set(...))` says that two are alike. -/
def batchCreateCollateralTypes (lower : String → String) (newUlid : ℕ → String)
    (tenantId userId : String) (items : List CreateCollateralTypeRequest)
    (table : CollateralTable) : Except ECLException CollateralTable :=
  let names := items.map fun item => pyStrip item.name
  let taken := (table.allowedCollateral tenantId).filter fun name => name ∈ names
  if ¬ (names.map lower).Nodup then .error duplicateNames
  else if taken ≠ [] then .error (collateralNamesTaken taken)
  else flush (table.rows
      ++ batchRows newUlid tenantId userId (items.map (·.toCollateralItem)))
    (stripped_append stripped_batchRows)

/-- `update_collateral_type`. -/
def updateCollateralType (tenantId collateralId : String) (req : UpdateCollateralTypeRequest)
    (table : CollateralTable) : Except ECLException CollateralTable :=
  match (table.live tenantId).find? fun t => t.id = collateralId with
  | none => .error collateralNotFound
  | some c => do
      match req.name with
      | none => pure ()
      | some name => checkNameUnique table tenantId name (some collateralId)
      flush (table.rows.map fun t =>
          if t.id = collateralId then
            { t with
              name := pyStrip (req.name.getD c.name)
              haircut := req.haircut.getD c.haircut
              timeToRealize := req.timeToRealize.getD c.timeToRealize }
          else t)
        (by
          intro t ht
          obtain ⟨t, hmem, rfl⟩ := List.mem_map.mp ht
          split
          · exact pyStrip_pyStrip _
          · exact table.stripped t hmem)

/-- The live rows of a mask get their `deleted_at`. -/
def CollateralTable.softDelete (table : CollateralTable) (now : Time)
    (mask : CollateralType → Bool) : CollateralTable where
  rows := table.rows.map fun t => if t.isLive ∧ mask t then { t with deletedAt := some now } else t
  live_unique := by
    have hlive : ((table.rows.map fun t =>
          if t.isLive ∧ mask t then { t with deletedAt := some now } else t).filter
            CollateralType.isLive)
        = (table.rows.filter CollateralType.isLive).filter fun t => !mask t := by
      induction table.rows with
      | nil => rfl
      | cons t rows ih =>
          rw [List.map_cons]
          by_cases hmask : t.isLive ∧ mask t
          · rw [if_pos hmask, List.filter_cons_of_neg (by simp [CollateralType.isLive]), ih,
              List.filter_cons_of_pos hmask.1, List.filter_cons_of_neg (by simp [hmask.2])]
          · by_cases hlive : t.isLive = true
            · have hkeep : mask t = false := by simpa [hlive] using hmask
              rw [if_neg hmask, List.filter_cons_of_pos hlive, ih, List.filter_cons_of_pos hlive,
                List.filter_cons_of_pos (by simp [hkeep])]
            · rw [if_neg hmask, List.filter_cons_of_neg hlive, ih, List.filter_cons_of_neg hlive]
    rw [LiveUnique, hlive]
    exact table.live_unique.sublist (List.filter_sublist.map _)
  stripped := by
    intro t ht
    obtain ⟨t, hmem, rfl⟩ := List.mem_map.mp ht
    split
    · exact table.stripped t hmem
    · exact table.stripped t hmem
  stored := by
    intro t ht
    obtain ⟨t, hmem, rfl⟩ := List.mem_map.mp ht
    split
    · obtain ⟨haircut, hhaircut, hfits, hsame⟩ :=
        CollateralType.store_eq_ok.mp (table.stored t hmem)
      have hkept : t.haircut = haircut := congrArg CollateralType.haircut hsame
      exact CollateralType.store_eq_ok.mpr ⟨haircut, hhaircut, hfits, by rw [← hkept]⟩
    · exact table.stored t hmem

/-- `delete_collateral_type`. -/
def deleteCollateralType (now : Time) (tenantId collateralId : String)
    (table : CollateralTable) : Except ECLException CollateralTable :=
  if (table.live tenantId).any fun t => t.id = collateralId then
    .ok (table.softDelete now fun t => t.tenantId = tenantId ∧ t.id = collateralId)
  else .error collateralNotFound

/-- The third step of `complete_onboarding`: the tenant's types are replaced. -/
def replaceCollateralTypes (now : Time) (newUlid : ℕ → String) (tenantId userId : String)
    (items : List OnboardingCollateralIn) (table : CollateralTable) :
    Except ECLException CollateralTable :=
  flush ((table.softDelete now fun t => t.tenantId = tenantId).rows
      ++ batchRows newUlid tenantId userId (items.map (·.toCollateralItem)))
    (stripped_append stripped_batchRows)

/-! ### What a flush does -/

section

variable {rows : List CollateralType} {hstripped : ∀ t ∈ rows, pyStrip t.name = t.name}
  {table table' : CollateralTable}

lemma flush_eq_ok : flush rows hstripped = .ok table'
    ↔ rows.mapM CollateralType.store = .ok table'.rows ∧ LiveUnique table'.rows := by
  rw [flush]
  constructor
  · intro h
    split at h
    · cases h
    · rename_i stored hstore
      split at h
      · rename_i hunique
        obtain rfl := Except.ok.inj h
        exact ⟨hstore, hunique⟩
      · cases h
  · rintro ⟨hrows, hunique⟩
    split
    · rename_i e hstore
      rw [hrows] at hstore
      cases hstore
    · rename_i stored hstore
      obtain rfl : table'.rows = stored := Except.ok.inj (hrows.symm.trans hstore)
      rw [dif_pos hunique]

/-- A flush that does not succeed raises. -/
lemma flush_eq_error (h : ∀ table', flush rows hstripped ≠ .ok table') :
    flush rows hstripped = .error unexpectedError := by
  have hor : flush rows hstripped = .error unexpectedError
      ∨ ∃ table', flush rows hstripped = .ok table' := by
    rw [flush]
    split
    · exact Or.inl rfl
    · split
      · exact Or.inr ⟨_, rfl⟩
      · exact Or.inl rfl
  exact hor.resolve_right fun ⟨table', hok⟩ => h table' hok

lemma exists_flush {stored : List CollateralType}
    (hstore : rows.mapM CollateralType.store = .ok stored) (hunique : LiveUnique stored) :
    ∃ table', flush rows hstripped = .ok table' :=
  ⟨⟨stored, hunique, stripped_of_store hstore hstripped, store_of_stored hstore⟩,
    flush_eq_ok.mpr ⟨hstore, hunique⟩⟩

/-- The rows of a table are stored already. -/
lemma store_rows (table : CollateralTable) :
    table.rows.mapM CollateralType.store = .ok table.rows := by
  have hmap := mapM_eq_ok_map (fun t ht => table.stored t ht) (g := id)
  rwa [List.map_id] at hmap

/-- New rows beside those of a table. -/
lemma store_append {new stored : List CollateralType}
    (hnew : new.mapM CollateralType.store = .ok stored) :
    (table.rows ++ new).mapM CollateralType.store = .ok (table.rows ++ stored) := by
  rw [List.mapM_append, store_rows]
  simp only [bind, Except.bind, hnew]
  rfl

end

/-! ### Items -/

/-- A number that is not negative, to two decimals: halves are rounded up. -/
def hundredths (q : ℚ) : ℚ := ⌊q * 10 ^ 2 + 1 / 2⌋ / 10 ^ 2

/-- A number of two decimals is kept. -/
lemma hundredths_of_places {q : ℚ} (h : (q * 100).den = 1) : hundredths q = q := by
  have hnum : q * 100 = (q * 100).num := (Rat.den_eq_one_iff _).mp h |>.symm
  have hfloor : ⌊q * 10 ^ 2 + 1 / 2⌋ = (q * 100).num := by
    rw [Int.floor_eq_iff, ← hnum]
    constructor
    · linarith
    · linarith
  rw [hundredths, hfloor, ← hnum]
  linarith

lemma hundredths_mem {q : ℚ} (h : 0 ≤ q ∧ q ≤ 100) : 0 ≤ hundredths q ∧ hundredths q ≤ 100 := by
  have hlow : (0 : ℤ) ≤ ⌊q * 10 ^ 2 + 1 / 2⌋ := Int.floor_nonneg.mpr (by linarith [h.1])
  have hhigh : ⌊q * 10 ^ 2 + 1 / 2⌋ < 10001 := Int.floor_lt.mpr (by push_cast; linarith [h.2])
  have hle : (⌊q * 10 ^ 2 + 1 / 2⌋ : ℚ) ≤ 10000 := by exact_mod_cast Int.lt_add_one_iff.mp hhigh
  constructor
  · exact div_nonneg (by exact_mod_cast hlow) (by norm_num)
  · rw [hundredths, div_le_iff₀ (by norm_num)]
    linarith

/-- The column takes every haircut of an item. -/
lemma numeric_haircut {q : ℚ} (h : 0 ≤ q ∧ q ≤ 100) : numeric 5 2 q = .ok (hundredths q) := by
  refine numeric_of_nonneg h.1 (Int.floor_lt.mpr ?_)
  push_cast
  linarith [h.2]

example : hundredths (12345 / 1000) = 1235 / 100 := by decide +kernel

/-- An item with the haircut that is stored. -/
def CollateralItem.rounded (item : CollateralItem) : CollateralItem :=
  { item with
    haircut := hundredths item.haircut
    haircut_range := hundredths_mem item.haircut_range }

/-- An item of two decimals is stored as it is. -/
lemma rounded_of_places {item : CollateralItem} (h : (item.haircut * 100).den = 1) :
    item.rounded = item := by
  simp only [CollateralItem.rounded, hundredths_of_places h]

/-! ### Batches -/

section

variable {newUlid : ℕ → String} {tenantId userId : String} {table : CollateralTable}

/-- The rows of a batch are live rows of the tenant, under the stripped names. -/
lemma mem_batchRows {items : List CollateralItem} {t : CollateralType}
    (h : t ∈ batchRows newUlid tenantId userId items) :
    t.tenantId = tenantId ∧ t.isLive = true := by
  obtain ⟨i, hi, rfl⟩ := List.mem_mapIdx.mp h
  exact ⟨rfl, rfl⟩

lemma map_name_batchRows (items : List CollateralItem) :
    (batchRows newUlid tenantId userId items).map (·.name)
      = items.map fun item => pyStrip item.name := by
  refine List.ext_getElem (by simp [batchRows]) fun i hi hi' => ?_
  simp [batchRows, newCollateralType]

/-- The rows of a batch are stored, with the haircuts rounded, where the times fit. -/
lemma store_batchRows {items : List CollateralItem}
    (h : ∀ item ∈ items, item.timeToRealize < 2 ^ 31) :
    (batchRows newUlid tenantId userId items).mapM CollateralType.store
      = .ok (batchRows newUlid tenantId userId (items.map CollateralItem.rounded)) := by
  have hstore : ∀ t ∈ batchRows newUlid tenantId userId items,
      t.store = .ok { t with haircut := hundredths t.haircut } := by
    intro t ht
    obtain ⟨i, hi, rfl⟩ := List.mem_mapIdx.mp ht
    have hmem := List.getElem_mem hi
    have hlow : -2 ^ 31 ≤ items[i].timeToRealize :=
      le_trans (by norm_num) items[i].timeToRealize_nonneg
    exact CollateralType.store_eq_ok.mpr ⟨_, numeric_haircut items[i].haircut_range,
      ⟨hlow, h _ hmem⟩, rfl⟩
  rw [mapM_eq_ok_map hstore]
  congr 1
  refine List.ext_getElem (by simp [batchRows]) fun i hi hi' => ?_
  simp [batchRows, newCollateralType, CollateralItem.rounded]

/-- A time that does not fit is refused. -/
lemma timeToRealize_of_store {items : List CollateralItem} {stored : List CollateralType}
    (h : (batchRows newUlid tenantId userId items).mapM CollateralType.store = .ok stored) :
    ∀ item ∈ items, item.timeToRealize < 2 ^ 31 := by
  intro item hitem
  obtain ⟨i, hi, rfl⟩ := List.mem_iff_getElem.mp hitem
  obtain ⟨t, -, hstore⟩ := exists_mem_of_mapM_ok h (List.mem_mapIdx.mpr ⟨i, hi, rfl⟩)
  obtain ⟨haircut, -, hfits, -⟩ := CollateralType.store_eq_ok.mp hstore
  exact hfits.2

/-- **What a flush makes of a batch**: the times fit and the index admits the rows, and then
these are stored, with the haircuts rounded. -/
lemma flush_batchRows {items : List CollateralItem} {table' : CollateralTable} :
    flush (table.rows ++ batchRows newUlid tenantId userId items)
        (stripped_append stripped_batchRows) = .ok table'
      ↔ ((∀ item ∈ items, item.timeToRealize < 2 ^ 31) ∧
          LiveUnique (table.rows
            ++ batchRows newUlid tenantId userId (items.map CollateralItem.rounded))) ∧
        table'.rows = table.rows
          ++ batchRows newUlid tenantId userId (items.map CollateralItem.rounded) := by
  by_cases hfits : ∀ item ∈ items, item.timeToRealize < 2 ^ 31
  · rw [flush_eq_ok, store_append (store_batchRows hfits), and_iff_right hfits, Except.ok.injEq,
      and_comm, eq_comm]
    exact and_congr_left fun hrows => by rw [hrows]
  · refine iff_of_false (fun h => hfits ?_) fun h => hfits h.1.1
    have hall := (flush_eq_ok.mp h).1
    rw [List.mapM_append] at hall
    obtain ⟨_, -, hall⟩ := bind_eq_ok.mp hall
    obtain ⟨stored, hstored, -⟩ := bind_eq_ok.mp hall
    exact timeToRealize_of_store hstored

lemma exists_flush_batchRows {items : List CollateralItem}
    (hfits : ∀ item ∈ items, item.timeToRealize < 2 ^ 31)
    (hunique : LiveUnique (table.rows
      ++ batchRows newUlid tenantId userId (items.map CollateralItem.rounded))) :
    ∃ table', flush (table.rows ++ batchRows newUlid tenantId userId items)
      (stripped_append stripped_batchRows) = .ok table' :=
  exists_flush (store_append (store_batchRows hfits)) hunique

/-- New names that differ from each other and from the live ones keep the index. -/
lemma liveUnique_append {items : List CollateralItem}
    (hnodup : (items.map fun item => pyStrip item.name).Nodup)
    (hfree : ∀ item ∈ items, pyStrip item.name ∉ table.allowedCollateral tenantId) :
    LiveUnique (table.rows ++ batchRows newUlid tenantId userId items) := by
  have hlive : (batchRows newUlid tenantId userId items).filter CollateralType.isLive
      = batchRows newUlid tenantId userId items :=
    List.filter_eq_self.mpr fun t ht => (mem_batchRows ht).2
  rw [LiveUnique, List.filter_append, List.map_append, hlive, List.nodup_append]
  refine ⟨table.live_unique, ?_, ?_⟩
  · refine List.Nodup.of_map Prod.snd ?_
    rw [List.map_map]
    exact (map_name_batchRows items).symm ▸ hnodup
  · rintro key hold key' hnew rfl
    obtain ⟨t, ht, rfl⟩ := List.mem_map.mp hold
    obtain ⟨n, hn, hkey⟩ := List.mem_map.mp hnew
    obtain ⟨htenant, hname⟩ := Prod.mk.inj hkey
    have hmem : n.name ∈ items.map fun item => pyStrip item.name := by
      rw [← map_name_batchRows]
      exact List.mem_map_of_mem hn
    obtain ⟨item, hitem, heq⟩ := List.mem_map.mp hmem
    refine hfree item hitem (CollateralTable.mem_allowedCollateral.mpr ⟨t, ?_, ⟨?_, ?_⟩, ?_⟩)
    · exact List.mem_of_mem_filter ht
    · exact htenant.symm.trans (mem_batchRows hn).1
    · exact (List.mem_filter.mp ht).2
    · rw [← hname, heq]

/-- **When a batch is created**: no two names are alike, none is live and the times fit; the index
never refuses it then. -/
theorem batchCreateCollateralTypes_eq_ok {lower : String → String}
    {items : List CreateCollateralTypeRequest} {table' : CollateralTable} :
    batchCreateCollateralTypes lower newUlid tenantId userId items table = .ok table'
      ↔ (((items.map fun item => lower (pyStrip item.name)).Nodup ∧
          ∀ item ∈ items, pyStrip item.name ∉ table.allowedCollateral tenantId) ∧
          ∀ item ∈ items, item.timeToRealize < 2 ^ 31) ∧
        table'.rows = table.rows
          ++ batchRows newUlid tenantId userId (items.map (·.toCollateralItem)) := by
  have hnames : (items.map (·.toCollateralItem)).map (fun item => pyStrip item.name)
      = items.map fun item => pyStrip item.name := List.map_map
  have htaken : (table.allowedCollateral tenantId).filter
      (fun name => name ∈ items.map fun item => pyStrip item.name) = []
        ↔ ∀ item ∈ items, pyStrip item.name ∉ table.allowedCollateral tenantId := by
    rw [List.filter_eq_nil_iff]
    constructor
    · intro h item hitem hmem
      exact h _ hmem (decide_eq_true (List.mem_map_of_mem hitem))
    · intro h name hname hmem
      obtain ⟨item, hitem, rfl⟩ := List.mem_map.mp (of_decide_eq_true hmem)
      exact h item hitem hname
  have hlower : (items.map fun item => lower (pyStrip item.name))
      = (items.map fun item => pyStrip item.name).map lower := List.map_map.symm
  -- the form allows two decimals, so that the column keeps the haircut as it is
  have hrounded : (items.map (·.toCollateralItem)).map CollateralItem.rounded
      = items.map (·.toCollateralItem) := by
    rw [List.map_map]
    exact List.map_congr_left fun req _ => rounded_of_places req.haircut_places
  rw [batchCreateCollateralTypes, hlower]
  by_cases hnodup : ((items.map fun item => pyStrip item.name).map lower).Nodup
  · rw [if_neg (not_not.mpr hnodup)]
    by_cases hfree : ∀ item ∈ items, pyStrip item.name ∉ table.allowedCollateral tenantId
    -- what the two checks let through, the unique index lets through as well
    · have hunique : LiveUnique (table.rows
          ++ batchRows newUlid tenantId userId (items.map (·.toCollateralItem))) := by
        refine liveUnique_append (hnames ▸ List.Nodup.of_map lower hnodup) fun item hitem => ?_
        obtain ⟨req, hreq, rfl⟩ := List.mem_map.mp hitem
        exact hfree req hreq
      rw [if_neg (not_not.mpr (htaken.mpr hfree)), flush_batchRows, hrounded,
        and_iff_left hunique, List.forall_mem_map]
      exact and_congr_left fun _ => (and_iff_right ⟨hnodup, hfree⟩).symm
    · rw [if_pos fun h => hfree (htaken.mp h)]
      exact iff_of_false (by simp) fun h => hfree h.1.1.2
  · rw [if_pos hnodup]
    exact iff_of_false (by simp) fun h => hnodup h.1.1.1

end

end EclServer.Tenants
