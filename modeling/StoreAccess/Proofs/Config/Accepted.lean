import StoreAccess.Proofs.Config.Settings
import StoreAccess.Proofs.Mysql.Dials

/-! Settings that are accepted can be dialed. What a cache or the checks behind its gate would refuse is refused when
    the settings are read, so after that only dials fail. -/

namespace StoreAccess
namespace StoreConfig

/-- Whatever its kind, the configuration can be dialed from a cache with these options. -/
def Dialable (options : CacheOptions) : StoreConfig → Prop
  | relational c => StoreAccess.Dialable options c
  | keyValue c => StoreAccess.Dialable options c
  | document c => StoreAccess.Dialable options c
  | coordination c => StoreAccess.Dialable options c
  | wideColumn c => StoreAccess.Dialable options c

theorem dialable_of_check {options : CacheOptions} {c : StoreConfig} (positive : options.check = .ok ())
    (sound : c.check = .ok ()) : c.Dialable options := by
  have fits := pool_check_of_check sound
  cases c <;> exact dialable_of_checks positive sound fits

end StoreConfig

namespace Settings

/-- All that is configured can be dialed from caches with the options of the settings. -/
structure AllDialable (s : Settings) : Prop where
  dialable : ∀ p c, s.config? p = some c → c.Dialable s.cache
  failsByDial : ∀ name config, s.relational.get? name = some config → Mysql.FailsByDial s.cache config

theorem allDialable_of_check {s : Settings} (accepted : s.check = .ok ()) : s.AllDialable := by
  obtain ⟨positive, sound⟩ := check_eq_ok_iff.mp accepted
  have dialable (p : Place) (c : StoreConfig) (there : s.config? p = some c) : c.Dialable s.cache :=
    StoreConfig.dialable_of_check positive (sound p c there)
  refine ⟨dialable, fun name config there => ?_⟩
  have place : s.config? ⟨.relational, name⟩ = some (.relational config) := congrArg (Option.map _) there
  exact Mysql.failsByDial (dialable _ _ place)

/-- Settings are checked in order, and what is configured in settings that can be read can be dialed. -/
theorem checked_and_dialable :
    (∀ s : Settings,
      (s.check = .ok () ↔
        s.cache.check = .ok () ∧ ∀ p c, s.config? p = some c → BackendConfig.check c = .ok ()) ∧
      ∀ e, s.check = .error e ↔ s.cache.check = .error e ∨
        s.cache.check = .ok () ∧ ∃ p c e', s.FirstRefused p c e' ∧ e = refusal p e') ∧
    ∀ (env : Environment) (cs : List Char) (s : Settings), ofText env cs = .ok s → s.AllDialable :=
  ⟨fun _ => ⟨check_eq_ok_iff, fun _ => check_eq_error_iff⟩,
    fun _ _ _ read => allDialable_of_check (check_of_ofText read)⟩

/-- Two databases; the host of one of them is a default. -/
def shops : List Char :=
  ("cache:\n  dial_timeout: 2s\nrelational:\n  shop:\n    host: $\x7bSHOP_HOST:-db\x7d\n    user: app\n" ++
    "    params:\n      autocommit: '1'\nkey_value:\n  sessions:\n    url: localhost:6379\n").toList

def shop : RelationalConfig := (RelationalConfig.ofTarget "app" ⟨""⟩ "db" 3306 "").withParam "autocommit" "1"

/-- Where nothing listens, the database of the shop is dialed, and the dial fails. -/
theorem shop_fails_by_dial :
    ∃ s, ofText ⟨fun _ => none⟩ shops = .ok s ∧ s.relational.get? "shop" = some shop ∧ s.AllDialable ∧
      ∃ (c₀ c : Cache RelationalConfig SqlAnswer) (h : History RelationalConfig SqlAnswer) (e : Error),
        Cache.ofOptions .relational s.cache .ofInsertion = .ok c₀ ∧ Run c₀ h c ∧
        Mysql.DialsThrough Mysql.boundsInOrder Mysql.noServer s.cache h ∧
        h.calls = [.acquire shop] ∧ c.answer? 0 = some (.leased (.error e)) ∧ e.category = .dial := by
  have found : ((ofText ⟨fun _ => none⟩ shops).toOption.bind fun s => s.relational.get? "shop") = some shop := by
    decide +kernel
  obtain ⟨s, kept, there⟩ := Option.bind_eq_some_iff.mp found
  have read : ofText ⟨fun _ => none⟩ shops = .ok s := by
    cases text : ofText ⟨fun _ => none⟩ shops with
    | error e =>
      rw [text] at kept
      cases kept
    | ok s' =>
      rw [text] at kept
      cases kept
      rfl
  have all : s.AllDialable := checked_and_dialable.2 _ _ s read
  have place : s.config? ⟨.relational, "shop"⟩ = some (.relational shop) :=
    congrArg (Option.map StoreConfig.relational) there
  have dialable : Dialable s.cache shop := all.dialable _ _ place
  obtain ⟨c₀, new⟩ := dialable.built SqlAnswer .relational .ofInsertion
  have check : (Target.ofConfig shop).check = .ok () := by decide +kernel
  obtain ⟨h, c, run, calls, told, answer⟩ := Run.exists_undialed new check (Mysql.unreached shop)
  have through : Mysql.DialsThrough Mysql.boundsInOrder Mysql.noServer s.cache h := by
    intro x hx j config pool r asked
    cases told x hx j _ asked
    exact Mysql.repliesBy_noServer shop _ s.cache
  have hcall : h.calls[0]? = some (.acquire shop) := by
    rw [calls]
    rfl
  have dials := all.failsByDial "shop" shop there
  have category := dials.category Mysql.takesRoom_boundsInOrder new run through hcall answer
  exact ⟨s, read, there, all, c₀, c, h, _, new, run, through, calls, answer, category⟩

end Settings
end StoreAccess
