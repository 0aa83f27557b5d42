import OpenwrtSource.Lib.KeyedList
import OpenwrtSource.Lib.Run

/-!
# The address map of 464XLAT

`xlat_cfg` keeps a list of pairs of an IPv4 and an IPv6 address, the newest
first, and refuses a pair that is in the list already.  Either address is looked
up by walking the list from its head.
-/

namespace OpenwrtSource.Hnat.XlatMap

open Lib.KeyedList Lib.Run

abbrev Ipv4Addr := BitVec 32
abbrev Ipv6Addr := BitVec 128

structure Map46 where
  ipv4 : Ipv4Addr
  ipv6 : Ipv6Addr
  deriving DecidableEq

structure XlatConf where
  xlatPrefix : Ipv6Addr
  prefixLen : Int
  mapList : List Map46
  deriving DecidableEq

/-- The IPv6 address and the IPv6 prefix for an IPv4 address. -/
def mtkPpeGetXlatV6ByV4 (xlat : XlatConf) (ipv4 : Ipv4Addr) : Option (Ipv6Addr × Ipv6Addr) :=
  (xlat.mapList.find? fun m => m.ipv4 = ipv4).map fun m => (m.ipv6, xlat.xlatPrefix)

def mtkPpeGetXlatV4ByV6 (xlat : XlatConf) (ipv6 : Ipv6Addr) : Option Ipv4Addr :=
  (xlat.mapList.find? fun m => m.ipv6 = ipv6).map Map46.ipv4

/-- A line written to `xlat_cfg`, with the addresses and the number it was read as. -/
inductive XlatCmd where
  | setPrefix (ipv6 : Ipv6Addr)
  | setPrefixLen (prefixLen : Int)
  | mapAdd (ipv4 : Ipv4Addr) (ipv6 : Ipv6Addr) (kmalloc : Bool)
  | mapDel (ipv4 : Ipv4Addr) (ipv6 : Ipv6Addr)
  | showConfig

/-- `hnat_xlat_cfg_write` for a line of `len` characters. -/
def hnatXlatCfgWrite (len : Nat) (xlat : XlatConf) : XlatCmd → Int × XlatConf
  | .setPrefix ipv6 => (len, { xlat with xlatPrefix := ipv6 })
  | .setPrefixLen prefixLen => (len, { xlat with prefixLen })
  | .mapAdd ipv4 ipv6 kmalloc =>
    if !kmalloc then (-1, xlat)
    else if xlat.mapList.any fun m => ipv6 = m.ipv6 ∧ ipv4 = m.ipv4 then (-1, xlat)
    else (len, { xlat with mapList := ⟨ipv4, ipv6⟩ :: xlat.mapList })
  | .mapDel ipv4 ipv6 =>
    (len, { xlat with mapList := xlat.mapList.eraseP fun m => ipv6 = m.ipv6 ∧ ipv4 = m.ipv4 })
  | .showConfig => (len, xlat)

/-- What a line does to the configuration; its length shows in the result only. -/
def step (xlat : XlatConf) (cmd : XlatCmd) : XlatConf := (hnatXlatCfgWrite 0 xlat cmd).2

def XlatConf.init : XlatConf := ⟨0, 0, []⟩

def Invertible (xlat : XlatConf) : Prop :=
  (∀ ipv4 ipv6 pfx, mtkPpeGetXlatV6ByV4 xlat ipv4 = some (ipv6, pfx) →
    mtkPpeGetXlatV4ByV6 xlat ipv6 = some ipv4) ∧
  ∀ ipv6 ipv4, mtkPpeGetXlatV4ByV6 xlat ipv6 = some ipv4 →
    mtkPpeGetXlatV6ByV4 xlat ipv4 = some (ipv6, xlat.xlatPrefix)

def FoundByV4 (xlat : XlatConf) (m : Map46) : Prop :=
  (xlat.mapList.find? fun other => other.ipv4 = m.ipv4) = some m

def FoundByV6 (xlat : XlatConf) (m : Map46) : Prop :=
  (xlat.mapList.find? fun other => other.ipv6 = m.ipv6) = some m

structure OneToOne (xlat : XlatConf) : Prop where
  v4 : xlat.mapList.Pairwise fun m other => m.ipv4 ≠ other.ipv4
  v6 : xlat.mapList.Pairwise fun m other => m.ipv6 ≠ other.ipv6

section

variable (xlat : XlatConf)

theorem v6ByV4_eq_some_iff (ipv4 : Ipv4Addr) (ipv6 pfx : Ipv6Addr) :
    mtkPpeGetXlatV6ByV4 xlat ipv4 = some (ipv6, pfx) ↔
      FoundByV4 xlat ⟨ipv4, ipv6⟩ ∧ xlat.xlatPrefix = pfx := by
  unfold mtkPpeGetXlatV6ByV4 FoundByV4
  rw [Option.map_eq_some_iff]
  constructor
  · rintro ⟨m, found, same⟩
    have own : m.ipv4 = ipv4 := by simpa using List.find?_some found
    obtain ⟨rfl, rfl⟩ := Prod.mk.inj same
    rw [← own] at found ⊢
    exact ⟨found, rfl⟩
  · rintro ⟨found, rfl⟩
    exact ⟨_, found, rfl⟩

theorem v4ByV6_eq_some_iff (ipv6 : Ipv6Addr) (ipv4 : Ipv4Addr) :
    mtkPpeGetXlatV4ByV6 xlat ipv6 = some ipv4 ↔ FoundByV6 xlat ⟨ipv4, ipv6⟩ := by
  unfold mtkPpeGetXlatV4ByV6 FoundByV6
  rw [Option.map_eq_some_iff]
  constructor
  · rintro ⟨m, found, rfl⟩
    have own : m.ipv6 = ipv6 := by simpa using List.find?_some found
    rw [← own] at found ⊢
    exact found
  · intro found
    exact ⟨_, found, rfl⟩

theorem invertible_iff :
    Invertible xlat ↔ ∀ m ∈ xlat.mapList, FoundByV4 xlat m ↔ FoundByV6 xlat m := by
  unfold Invertible
  simp only [v6ByV4_eq_some_iff, v4ByV6_eq_some_iff]
  constructor
  · rintro ⟨back, forth⟩ m _
    constructor
    · intro found
      exact back m.ipv4 m.ipv6 xlat.xlatPrefix ⟨found, rfl⟩
    · intro found
      exact (forth m.ipv6 m.ipv4 found).1
  · intro both
    constructor
    · rintro ipv4 ipv6 pfx ⟨found, -⟩
      exact (both _ (List.mem_of_find?_eq_some found)).mp found
    · intro ipv6 ipv4 found
      exact ⟨(both _ (List.mem_of_find?_eq_some found)).mpr found, trivial⟩

theorem OneToOne.invertible {xlat : XlatConf} (unique : OneToOne xlat) : Invertible xlat := by
  rw [invertible_iff]
  intro m member
  exact iff_of_true (find?_of_once unique.v4 member) (find?_of_once unique.v6 member)

end

/-- A command does not map an address that is mapped to another one. -/
def Fresh (xlat : XlatConf) : XlatCmd → Prop
  | .mapAdd ipv4 ipv6 _ => ∀ m ∈ xlat.mapList, m.ipv4 = ipv4 ↔ m.ipv6 = ipv6
  | _ => True

variable (xlat : XlatConf) (cmd : XlatCmd)

theorem step_cases :
    (step xlat cmd).mapList = xlat.mapList ∨
      (∃ ipv4 ipv6 kmalloc, cmd = .mapAdd ipv4 ipv6 kmalloc ∧ ⟨ipv4, ipv6⟩ ∉ xlat.mapList ∧
        (step xlat cmd).mapList = ⟨ipv4, ipv6⟩ :: xlat.mapList) ∨
      (step xlat cmd).mapList.Sublist xlat.mapList := by
  cases cmd with
  | setPrefix ipv6 => exact Or.inl rfl
  | setPrefixLen prefixLen => exact Or.inl rfl
  | mapAdd ipv4 ipv6 kmalloc =>
    simp only [step, hnatXlatCfgWrite]
    split_ifs with none_left known
    · exact Or.inl rfl
    · exact Or.inl rfl
    · refine Or.inr (Or.inl ⟨ipv4, ipv6, kmalloc, rfl, ?_, rfl⟩)
      intro member
      apply known
      rw [List.any_eq_true]
      exact ⟨_, member, by simp⟩
  | mapDel ipv4 ipv6 => exact Or.inr (Or.inr List.eraseP_sublist)
  | showConfig => exact Or.inl rfl

theorem step_nodup (once : xlat.mapList.Nodup) : (step xlat cmd).mapList.Nodup := by
  obtain same | ⟨ipv4, ipv6, kmalloc, -, new, added⟩ | fewer := step_cases xlat cmd
  · rw [same]
    exact once
  · rw [added]
    exact List.nodup_cons.mpr ⟨new, once⟩
  · exact once.sublist fewer

theorem step_oneToOne (unique : OneToOne xlat) (fresh : Fresh xlat cmd) :
    OneToOne (step xlat cmd) := by
  obtain same | ⟨ipv4, ipv6, kmalloc, rfl, new, added⟩ | fewer := step_cases xlat cmd
  · exact ⟨same ▸ unique.v4, same ▸ unique.v6⟩
  · -- a mapping with one of the addresses would have both, and be the new one
    have apart : ∀ m ∈ xlat.mapList, ¬ (m.ipv4 = ipv4 ∧ m.ipv6 = ipv6) := by
      rintro m member ⟨rfl, rfl⟩
      exact new member
    refine ⟨?_, ?_⟩
    · rw [added]
      refine List.pairwise_cons.mpr ⟨?_, unique.v4⟩
      intro m member same
      exact apart m member ⟨same.symm, (fresh m member).mp same.symm⟩
    · rw [added]
      refine List.pairwise_cons.mpr ⟨?_, unique.v6⟩
      intro m member same
      exact apart m member ⟨(fresh m member).mpr same.symm, same.symm⟩
  · exact ⟨unique.v4.sublist fewer, unique.v6.sublist fewer⟩

/-- After any commands no mapping is in the list twice, the lookups are inverse exactly if no
mapping is found by one of its addresses only, and they are inverse after commands none of which
maps an address that is mapped to another one. -/
theorem lookups_after_commands (cmds : List XlatCmd) :
    let xlat := run step XlatConf.init cmds
    xlat.mapList.Nodup ∧
      (Invertible xlat ↔ ∀ m ∈ xlat.mapList, FoundByV4 xlat m ↔ FoundByV6 xlat m) ∧
      (Along step Fresh XlatConf.init cmds → Invertible xlat) := by
  intro xlat
  refine ⟨?_, invertible_iff xlat, ?_⟩
  · apply run_invariant step (fun _ _ => True) (fun xlat => xlat.mapList.Nodup)
    · intro xlat cmd once _
      exact step_nodup xlat cmd once
    · exact List.nodup_nil
    · exact along_of_forall _ _ _ _ fun _ _ _ => trivial
  · intro fresh
    apply OneToOne.invertible
    apply run_invariant step Fresh OneToOne step_oneToOne _ _ _ fresh
    exact ⟨List.Pairwise.nil, List.Pairwise.nil⟩

/-- Two IPv6 addresses of one IPv4 address: the older one leads to it, and does not come back. -/
theorem second_mapping_shadows :
    let xlat := run step XlatConf.init [.mapAdd 0x0a000001 1 true, .mapAdd 0x0a000001 2 true]
    mtkPpeGetXlatV4ByV6 xlat 1 = some 0x0a000001 ∧
      mtkPpeGetXlatV6ByV4 xlat 0x0a000001 = some (2, 0) ∧ ¬ Invertible xlat := by
  refine ⟨by decide, by decide, ?_⟩
  rintro ⟨-, forth⟩
  have back := forth 1 0x0a000001 (by decide)
  exact absurd back (by decide)

end OpenwrtSource.Hnat.XlatMap
