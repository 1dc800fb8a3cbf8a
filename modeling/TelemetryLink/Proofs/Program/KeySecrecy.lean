import TelemetryLink.Proofs.Config.Saving
import TelemetryLink.Proofs.Config.Secrecy
import TelemetryLink.Proofs.Program.Run

/-!
# A saved configuration tells nothing of the key

Two runs that are to save the configuration, and that differ in nothing but the keys in the file, the
environment and the options, end in the same way and write the same file, in which there is no key.

- `AgreeBesideKeys`: what two such runs have in common.
- `effective_agree`: the configurations in effect differ in the key alone.
- `writeConfig_agree`: what the two runs make of them.
-/

namespace TelemetryLink

/-- The options without a key. -/
def CommandLine.Options.withoutKey (options : Options) : Options :=
  { options with overrides := options.overrides.withoutKey }

namespace Program

open CommandLine Files Stateful

variable {options options' : Options} {env env' : Environment} {files files' : Tree}

/-- Two runs whose options, environments and files differ in nothing but keys. -/
structure AgreeBesideKeys (options options' : Options) (env env' : Environment)
    (files files' : Tree) : Prop where
  /-- The options set the same, apart from the key. -/
  sameOptions : options.withoutKey = options'.withoutKey
  /-- The variables that hold no keys have the same values. -/
  sameEnvironment : ∀ name, name ∉ Config.keyVariables → env name = env' name
  /-- Directories and files are at the same places. -/
  sameLayout : files.layout = files'.layout
  /-- What the files of the configuration say is the same, apart from the table of the key. -/
  sameFile : Config.besideKey (configPath options env) files =
    Config.besideKey (configPath options env) files'

/-- Where the configuration is kept has nothing to do with keys. -/
theorem configPath_agree (h : AgreeBesideKeys options options' env env' files files') :
    configPath options env = configPath options' env' := by
  have hconfig : options.config = options'.config := (congrArg Options.config h.sameOptions :)
  have hhome : Config.home env = Config.home env' := by
    unfold Config.home Environment.nonempty
    rw [h.sameEnvironment "XDG_CONFIG_HOME" (by decide), h.sameEnvironment "HOME" (by decide)]
  unfold configPath Config.defaultPath
  rw [hconfig, hhome]

/-- Files, environments and options that differ in keys alone have configurations in effect that
differ in the key alone. -/
theorem effective_agree (h : AgreeBesideKeys options options' env env' files files')
    {file file' : Config} (hload : loaded options env files = .ok file)
    (hload' : loaded options' env' files' = .ok file') :
    (effective options env file).withoutKey = (effective options' env' file').withoutKey := by
  have hload' : Config.loadFrom (configPath options env) files' = .ok file' :=
    (configPath_agree h).symm ▸ hload'
  have hfile : file.withoutKey = file'.withoutKey :=
    Config.loadFrom_agree h.sameLayout h.sameFile hload hload'
  -- The layers are laid over what the files say beside the key.
  exact Config.withoutKey_withOverrides (congrArg Options.overrides h.sameOptions)
    (Config.withoutKey_withEnvironment h.sameEnvironment hfile)

/-- A run that is to save the configuration, as far as it concerns files. -/
theorem runOn_of_save (network : Net.Network Stream) {file : Config}
    (hwrite : options.writeConfig = true) (hload : loaded options env files = .ok file) :
    runOn options env files network =
      match (effective options env file).withoutKey.validate with
      | .error violation => (.error (.invalid violation), files, network)
      | .ok () =>
        let (result, after) :=
          on (Config.save (configPath options env) (effective options env file).withoutKey) files
        (result.mapError .save, after, network) := by
  rw [runOn_of_writeConfig hload hwrite, writeConfig_on, Config.validate_withoutKey]
  cases (effective options env file).validate with
  | error violation => rfl
  | ok => rfl

/-- Two runs that are to save the configuration, and whose options, environments and files differ in
nothing but keys, end in the same way. Either both write the same text, from which a configuration
without a key is loaded, or neither writes a file; and if the configuration in effect is not valid,
everything stays as it was. -/
theorem writeConfig_agree (network network' : Net.Network Stream) {file file' : Config}
    (hwrite : options.writeConfig = true)
    (hagree : AgreeBesideKeys options options' env env' files files')
    (hload : loaded options env files = .ok file)
    (hload' : loaded options' env' files' = .ok file') :
    let path := configPath options env
    let one := runOn options env files network
    let other := runOn options' env' files' network'
    one.1 = other.1 ∧ (status one.1).code = (status other.1).code ∧
      (((status one.1).code = 0 ∧ ∃ content saved, Tree.Wrote path content files one.2.1 ∧
          Tree.Wrote path content files' other.2.1 ∧
          on (Config.load path) one.2.1 = (.ok saved, one.2.1) ∧
          on (Config.load path) other.2.1 = (.ok saved, other.2.1) ∧ saved.auth.key = none) ∨
        ((status one.1).code = 1 ∧ Tree.SameFiles files one.2.1 ∧
          Tree.SameFiles files' other.2.1)) ∧
      ((effective options env file).validate ≠ .ok () → one.2.1 = files ∧ other.2.1 = files') := by
  intro path one other
  -- The two runs look at the same path, and their configurations differ in the key alone.
  have hpath : configPath options' env' = configPath options env := (configPath_agree hagree).symm
  have hwrite' : options'.writeConfig = true :=
    (congrArg Options.writeConfig hagree.sameOptions :).symm.trans hwrite
  have heffective := effective_agree hagree hload hload'
  have hone : one = _ := runOn_of_save network hwrite hload
  have hother : other = _ := runOn_of_save network' hwrite' hload'
  have hkey : (effective options env file).withoutKey.auth.key = none := rfl
  -- Neither the check nor what is saved depends on the key.
  rw [← heffective, hpath] at hother
  rw [← Config.validate_withoutKey]
  generalize (effective options env file).withoutKey = config at hone hother hkey
  cases hvalidate : config.validate with
  | error violation =>
    rw [hvalidate] at hone hother
    rw [hone, hother]
    exact ⟨rfl, rfl, .inr ⟨rfl, .refl files, .refl files'⟩, fun _ => ⟨rfl, rfl⟩⟩
  | ok =>
    rw [hvalidate] at hone hother
    obtain ⟨content, after, after', hsave, hsave', hwrote, hwrote', hloaded, hloaded'⟩ |
      ⟨error, after, after', hsave, hsave', hfiles, hfiles'⟩ :=
      Config.save_agree path hagree.sameLayout config
    · rw [hsave] at hone
      rw [hsave'] at hother
      rw [hone, hother]
      have hback : on (Config.load path) after = (.ok config, after) :=
        (Config.load_on path after).trans (congrArg (·, after) hloaded)
      have hback' : on (Config.load path) after' = (.ok config, after') :=
        (Config.load_on path after').trans (congrArg (·, after') hloaded')
      exact ⟨rfl, rfl, .inl ⟨rfl, content, config, hwrote, hwrote', hback, hback', hkey⟩,
        fun h => absurd rfl h⟩
    · rw [hsave] at hone
      rw [hsave'] at hother
      rw [hone, hother]
      exact ⟨rfl, rfl, .inr ⟨rfl, hfiles, hfiles'⟩, fun h => absurd rfl h⟩

set_option synthInstance.maxSize 400 in
/-- A run without any key and a run with three of them save the same port. -/
theorem writeConfig_agree_port :
    let path := "client.toml"
    let plain : Tree :=
      { nodes := [([path], .file (Text.Utf8.encode "[server]\nport = 7000\n"))] }
    let keyed : Tree :=
      { nodes := [([path], .file (Text.Utf8.encode
        "[auth]\nkey = \"secret\"\n\n[server]\nport = 7000\n"))] }
    let options : Options := { config := some path, writeConfig := true }
    let options' : Options := { options with overrides := { authKey := some "another" } }
    let env : Environment := fun _ => none
    let env' : Environment := fun name => if name = "AUTH_KEY" then some "third" else none
    let network : Net.Network Stream :=
      { hosts := fun _ => .ok [], links := [], spare := ⟨[], [], [], []⟩,
        spareNonce := ⟨[0, 0, 0, 0, 0, 0, 0, 1], rfl⟩ }
    loaded options env plain = .ok { server := { port := 7000 } } ∧
      loaded options' env' keyed =
        .ok { server := { port := 7000 }, auth := { key := some "secret" } } ∧
      (status (runOn options env plain network).1).code = 0 ∧
      (status (runOn options' env' keyed network).1).code = 0 ∧
      ∃ content, (runOn options env plain network).2.1.read path = .ok content ∧
        (runOn options' env' keyed network).2.1.read path = .ok content := by
  intro path plain keyed options options' env env' network
  have henv : ∀ name, name ∉ Config.keyVariables → env name = env' name := by
    intro name hname
    have hne : name ≠ "AUTH_KEY" := by
      rintro rfl
      exact hname (by decide)
    exact (if_neg hne : env' name = none).symm
  have hoptions : options.withoutKey = options'.withoutKey := rfl
  have hlayout : plain.layout = keyed.layout := rfl
  have hplain : Config.besideKey path plain =
      some (.ofTables [("server", [("port", .integer 7000)])]) :=
    Config.besideKey_of_outline (by decide +kernel)
  have hkeyed : Config.besideKey path keyed =
      some (.ofTables [("server", [("port", .integer 7000)])]) :=
    Config.besideKey_of_outline (by decide +kernel)
  have hbeside : Config.besideKey (configPath options env) plain =
      Config.besideKey (configPath options env) keyed := hplain.trans hkeyed.symm
  have hload : loaded options env plain = .ok { server := { port := 7000 } } := by decide +kernel
  have hload' : loaded options' env' keyed =
      .ok { server := { port := 7000 }, auth := { key := some "secret" } } := by decide +kernel
  have hwrite : options.writeConfig = true := rfl
  have hruns := writeConfig_agree network network hwrite ⟨hoptions, henv, hlayout, hbeside⟩ hload
    hload'
  have hcode : (status (runOn options env plain network).1).code = 0 := by decide +kernel
  have hcode' := hruns.2.1.symm.trans hcode
  obtain ⟨-, content, saved, ⟨room, -, hwrote⟩, ⟨room', -, hwrote'⟩, -⟩ :=
    hruns.2.2.1.resolve_right fun h => absurd (hcode.symm.trans h.1) (by decide)
  exact ⟨hload, hload', hcode, hcode', content, Tree.read_of_write hwrote,
    Tree.read_of_write hwrote'⟩

end Program

end TelemetryLink
