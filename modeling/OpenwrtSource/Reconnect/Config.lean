import Mathlib.Data.List.Infix
import Mathlib.Data.List.Nodup

/-!
# The station profiles of mtkreconnect

`load_sta_configs` reads the `wireless` package of UCI and fills a table of at
most four profiles.  A package is what libuci hands out: named sections with
named options.  Texts are lists of characters, one for each byte, and a copy
into a buffer of `n` bytes keeps the first `n - 1`.
-/

namespace OpenwrtSource.Reconnect.Config

abbrev Text := List Char

def ifNamSiz : Nat := 16
def maxSta : Nat := 4

/-- libuci deletes an option that is given the empty text, so none has it. -/
structure UciOption where
  name : Text
  string : Text
  stored : string ≠ []

structure UciSection where
  type : Text
  name : Text
  options : List UciOption

structure UciPackage where
  sections : List UciSection

def uciLookupSection (pkg : UciPackage) (name : Text) : Option UciSection :=
  pkg.sections.find? fun s => s.name = name

def uciLookupOption (s : UciSection) (name : Text) : Option Text :=
  (s.options.find? fun o => o.name = name).map (·.string)

variable {s : UciSection} {pkg : UciPackage} {holds : StaInterface → Prop}

theorem uciLookupOption_ne_nil {name value : Text} (found : uciLookupOption s name = some value) :
    value ≠ [] := by
  simp only [uciLookupOption, Option.map_eq_some_iff] at found
  obtain ⟨o, -, rfl⟩ := found
  exact o.stored

def safeCopy (size : Nat) (src : Text) : Text := src.take (size - 1)

theorem safeCopy_ne_nil {size : Nat} {src : Text} (room : 2 ≤ size) (given : src ≠ []) :
    safeCopy size src ≠ [] := by
  simp only [safeCopy, ne_eq, List.take_eq_nil_iff, not_or]
  exact ⟨by omega, given⟩

structure StaInterface where
  ifname : Text
  parent : Text
  ssid : Text
  key : Text
  auth : Text
  enc : Text
  nextTry : Int
  failCount : Int
  disconnStreak : Nat
  connectedStreak : Nat
  lastConnected : Bool
  deriving DecidableEq

abbrev Pair := Text × Text

def StaInterface.pair (iface : StaInterface) : Pair := (iface.ifname, iface.ssid)

def contains (text word : Text) : Bool := decide (word <:+: text)

/-- `map_encryption`, with the buffers of 32 bytes for both answers. -/
def mapEncryption (uciEnc : Option Text) : Text × Text :=
  let fill (auth enc : Text) := (safeCopy 32 auth, safeCopy 32 enc)
  match uciEnc with
  | none => fill ['W', 'P', 'A', '2', 'P', 'S', 'K'] ['A', 'E', 'S']
  | some text =>
    if contains text ['n', 'o', 'n', 'e'] || contains text ['o', 'p', 'e', 'n'] then
      fill ['O', 'P', 'E', 'N'] ['N', 'O', 'N', 'E']
    else
      let sae := contains text ['s', 'a', 'e']
      let wpa3 := contains text ['w', 'p', 'a', '3']
      let psk2 := contains text ['p', 's', 'k', '2']
      let psk := contains text ['p', 's', 'k']
      let mixed := contains text ['m', 'i', 'x', 'e', 'd']
      let tkip := contains text ['t', 'k', 'i', 'p']
      let aes := contains text ['a', 'e', 's']
      let ccmp := contains text ['c', 'c', 'm', 'p']
      if sae || wpa3 then
        fill (if mixed || psk2 then
            ['W', 'P', 'A', '2', 'P', 'S', 'K', 'W', 'P', 'A', '3', 'S', 'A', 'E']
          else ['W', 'P', 'A', '3', 'S', 'A', 'E']) ['A', 'E', 'S']
      else if contains text ['o', 'w', 'e'] then
        fill ['O', 'W', 'E'] ['A', 'E', 'S']
      else if psk || psk2 || ccmp then
        fill (if mixed then
            ['W', 'P', 'A', '1', 'P', 'S', 'K', 'W', 'P', 'A', '2', 'P', 'S', 'K']
          else if psk2 || ccmp then ['W', 'P', 'A', '2', 'P', 'S', 'K']
          else ['W', 'P', 'A', 'P', 'S', 'K'])
          (if tkip && aes then ['T', 'K', 'I', 'P', 'A', 'E', 'S']
          else if tkip then ['T', 'K', 'I', 'P']
          else if mixed then ['T', 'K', 'I', 'P', 'A', 'E', 'S']
          else ['A', 'E', 'S'])
      else
        fill ['O', 'P', 'E', 'N'] ['N', 'O', 'N', 'E']

def rax0 : Text := ['r', 'a', 'x', '0']
def ra0 : Text := ['r', 'a', '0']

/-- The parent that the `band` option of the radio names, if it does. -/
def parentOfBand (dsec : UciSection) : Option Text :=
  match uciLookupOption dsec ['b', 'a', 'n', 'd'] with
  | none => none
  | some band =>
    if band = ['5', 'g'] then some rax0
    else if band = ['2', 'g'] then some ra0
    else none

def parentOfHwmode (dsec : UciSection) : Option Text :=
  match uciLookupOption dsec ['h', 'w', 'm', 'o', 'd', 'e'] with
  | none => none
  | some hwmode =>
    if hwmode = ['1', '1', 'a'] then some rax0
    else if hwmode = ['1', '1', 'g'] ∨ hwmode = ['1', '1', 'b'] then some ra0
    else none

def resolveParent (pkg : UciPackage) (devname ifname : Text) : Text :=
  let named := match uciLookupSection pkg devname with
    | none => none
    | some dsec => (parentOfBand dsec).or (parentOfHwmode dsec)
  match named with
  | some parent => safeCopy ifNamSiz parent
  | none =>
    if ['a', 'p', 'c', 'l', 'i', 'x'].isPrefixOf ifname then safeCopy ifNamSiz rax0
    else safeCopy ifNamSiz ra0

/-- Whether a section without `ifname` belongs to the 5 GHz radio. -/
def is5g (pkg : UciPackage) (devname : Text) : Bool :=
  match uciLookupSection pkg devname with
  | some dsec =>
    match uciLookupOption dsec ['b', 'a', 'n', 'd'] with
    | some band => band = ['5', 'g']
    | none => uciLookupOption dsec ['h', 'w', 'm', 'o', 'd', 'e'] = some ['1', '1', 'a']
  | none =>
    contains devname ['r', 'a', 'x'] ||
      match devname.getLast? with
      | none => false
      | some devlast => decide ('1' ≤ devlast) && decide (devlast ≤ '9')

def resolveIfname (pkg : UciPackage) (ifn : Option Text) (devname : Text) : Text :=
  match ifn with
  | some name => safeCopy ifNamSiz name
  | none =>
    safeCopy ifNamSiz (if is5g pkg devname then ['a', 'p', 'c', 'l', 'i', 'x', '0']
      else ['a', 'p', 'c', 'l', 'i', '0'])

def newProfile (pkg : UciPackage) (s : UciSection) (dev ssid : Text) : StaInterface :=
  let ifname := resolveIfname pkg (uciLookupOption s ['i', 'f', 'n', 'a', 'm', 'e']) dev
  let parent :=
    match uciLookupOption s ['p', 'a', 'r', 'e', 'n', 't', '_', 'i', 'f', 'a', 'c', 'e'] with
    | some pif =>
      if pif ≠ [] then safeCopy ifNamSiz pif else resolveParent pkg dev ifname
    | none => resolveParent pkg dev ifname
  let authEnc :=
    mapEncryption (uciLookupOption s ['e', 'n', 'c', 'r', 'y', 'p', 't', 'i', 'o', 'n'])
  { ifname := ifname
    parent := parent
    ssid := safeCopy 64 ssid
    key := safeCopy 64 ((uciLookupOption s ['k', 'e', 'y']).getD [])
    auth := authEnc.1
    enc := authEnc.2
    nextTry := 0
    failCount := 0
    disconnStreak := 0
    connectedStreak := 0
    lastConnected := false }

/-- One turn of the loop over the sections; `list` holds the slots filled so far. -/
def addSection (pkg : UciPackage) (list : List StaInterface) (s : UciSection) :
    List StaInterface :=
  if s.type ≠ ['w', 'i', 'f', 'i', '-', 'i', 'f', 'a', 'c', 'e'] then list
  else if uciLookupOption s ['m', 'o', 'd', 'e'] ≠ some ['s', 't', 'a'] then list
  else
    match uciLookupOption s ['d', 'e', 'v', 'i', 'c', 'e'],
      uciLookupOption s ['s', 's', 'i', 'd'] with
    | some dev, some ssid =>
      if list.length ≥ maxSta then list
      else list ++ [newProfile pkg s dev ssid]
    | _, _ => list

def profilesOf (pkg : UciPackage) : List StaInterface :=
  pkg.sections.foldl (addSection pkg) []

/-- What a matching profile of before the reload hands on. -/
def restore (old : List StaInterface) (iface : StaInterface) : StaInterface :=
  match old.find? fun o => iface.ifname = o.ifname && iface.ssid = o.ssid with
  | none => iface
  | some o =>
    { iface with
      nextTry := o.nextTry
      failCount := o.failCount
      disconnStreak := o.disconnStreak
      connectedStreak := o.connectedStreak
      lastConnected := o.lastConnected }

/-- `loaded` is the answer of `uci_load`; slots with an empty SSID are not backed up. -/
def loadStaConfigs (loaded : Option UciPackage) (list : List StaInterface) :
    List StaInterface :=
  let old := list.filter fun iface => iface.ssid ≠ []
  match loaded with
  | none => old
  | some pkg => (profilesOf pkg).map (restore old)

/-- The package gives each pair of interface and SSID to one profile only. -/
def ListsOnce (pkg : UciPackage) : Prop := ((profilesOf pkg).map (·.pair)).Nodup

instance (pkg : UciPackage) : Decidable (ListsOnce pkg) :=
  inferInstanceAs (Decidable (List.Nodup _))

theorem addSection_all {list : List StaInterface} (before : ∀ iface ∈ list, holds iface)
    (added : ∀ dev ssid, ssid ≠ [] → holds (newProfile pkg s dev ssid)) :
    ∀ iface ∈ addSection pkg list s, holds iface := by
  unfold addSection
  split
  · exact before
  · split
    · exact before
    · split
      · rename_i dev ssid _ found
        split
        · exact before
        · intro iface member
          rcases List.mem_append.mp member with old | new
          · exact before iface old
          · rw [List.mem_singleton.mp new]
            exact added dev ssid (uciLookupOption_ne_nil found)
      · exact before

theorem profilesOf_all (added : ∀ s dev ssid, ssid ≠ [] → holds (newProfile pkg s dev ssid)) :
    ∀ iface ∈ profilesOf pkg, holds iface := by
  have folds : ∀ (sections : List UciSection) (list : List StaInterface),
      (∀ iface ∈ list, holds iface) →
        ∀ iface ∈ sections.foldl (addSection pkg) list, holds iface := by
    intro sections
    induction sections with
    | nil => intro list before; exact before
    | cons s rest ih =>
      intro list before
      apply ih
      exact addSection_all before (added s)
  exact folds pkg.sections [] (by simp)

theorem profilesOf_ssid_ne_nil (pkg : UciPackage) : ∀ iface ∈ profilesOf pkg, iface.ssid ≠ [] := by
  apply profilesOf_all
  intro s dev ssid given
  exact safeCopy_ne_nil (by omega) given

@[simp] theorem restore_pair (old : List StaInterface) (iface : StaInterface) :
    (restore old iface).pair = iface.pair := by
  unfold restore
  split <;> rfl

@[simp] theorem restore_ssid (old : List StaInterface) (iface : StaInterface) :
    (restore old iface).ssid = iface.ssid := by
  unfold restore
  split <;> rfl

theorem restore_spec {old : List StaInterface} {iface : StaInterface}
    (known : iface.pair ∈ old.map (·.pair)) :
    ∃ o ∈ old, o.pair = iface.pair ∧ (restore old iface).nextTry = o.nextTry ∧
      (restore old iface).failCount = o.failCount := by
  obtain ⟨prior, member, same⟩ := List.mem_map.mp known
  have names : iface.ifname = prior.ifname ∧ iface.ssid = prior.ssid := by
    simp only [StaInterface.pair, Prod.mk.injEq] at same
    exact ⟨same.1.symm, same.2.symm⟩
  cases found : old.find? fun o => iface.ifname = o.ifname && iface.ssid = o.ssid with
  | none =>
    have none_matches := List.find?_eq_none.mp found prior member
    simp [names] at none_matches
  | some o =>
    have matching := List.find?_some found
    simp only [Bool.and_eq_true, decide_eq_true_eq] at matching
    refine ⟨o, List.mem_of_find?_eq_some found, ?_, ?_, ?_⟩
    · simp only [StaInterface.pair, matching.1, matching.2]
    · simp only [restore, found]
    · simp only [restore, found]

end OpenwrtSource.Reconnect.Config
