import Mathlib.Logic.Function.Basic
import ServiceBroker.Telemetry

/-!
# Flags that cannot be understood

Two variables of an environment are flags: one says whether logs are written to the console, the
other whether they are structured. A flag with a text that names no truth value should be as good as
none. The first one is. The second one is as good as a flag that is off, which is the setting
without the flag only outside of containers.

## Main definitions

* `IsUnrecognized`: a text names no truth value;
* `TelemetryConfig.InContainer`: an environment is that of a container;
* `TelemetryConfig.Ignores`: a variable with some text is as good as without one.

## Main results

* `isUnrecognized_iff`: the texts that leave a flag at its fallback;
* `TelemetryConfig.ignores_flag_iff`: the flags that are ignored when they cannot be understood.
-/

namespace ServiceBroker

open Function (update update_self update_of_ne)

/-! ## Texts of flags -/

/-- The text names no truth value, in letters of either case and with blanks around it or not. -/
def IsUnrecognized (value : String) : Prop :=
  Text.toLower (Text.trim value) ∉ ["1", "true", "yes", "on", "0", "false", "no", "off"]

instance (value : String) : Decidable (IsUnrecognized value) :=
  inferInstanceAs (Decidable (_ ∉ _))

theorem parseFlag_of_isUnrecognized {value : String} (h : IsUnrecognized value) (fallback : Bool) :
    parseFlag value fallback = fallback := by
  simp only [IsUnrecognized, List.mem_cons, List.not_mem_nil, or_false, not_or] at h
  simp [parseFlag, h]

/-- A text names no truth value if and only if every fallback stays. -/
theorem isUnrecognized_iff {value : String} :
    IsUnrecognized value ↔ ∀ fallback, parseFlag value fallback = fallback := by
  refine ⟨parseFlag_of_isUnrecognized, fun h hmem => ?_⟩
  have htrue := h true
  have hfalse := h false
  -- a text that names one of the truth values takes the place of the other
  simp only [List.mem_cons, List.not_mem_nil, or_false] at hmem
  unfold parseFlag at htrue hfalse
  rcases hmem with hmem | hmem | hmem | hmem | hmem | hmem | hmem | hmem <;>
    simp [hmem] at htrue hfalse

namespace TelemetryConfig

/-! ## Environments with and without a flag -/

/-- The environment is that of a container. -/
def InContainer (lookup : String → Option String) : Prop :=
  (lookup "KUBERNETES_SERVICE_HOST").isSome ∨ (lookup "DOCKER_CONTAINER").isSome

/-- The settings are the same whether a variable of an environment has some text or is absent. -/
def Ignores (lookup : String → Option String) (name value : String) : Prop :=
  ofEnvironment (update lookup name (some value)) = ofEnvironment (update lookup name none)

variable (lookup : String → Option String)

/-- The flag of the console changes nothing but whether logs are written to it. -/
theorem ofEnvironment_console (value : Option String) :
    ofEnvironment (update lookup "EB_CONSOLE_OUTPUT" value) =
      { ofEnvironment lookup with consoleOutput := (value.map (parseFlag · true)).getD true } := by
  simp [ofEnvironment, update_self, update_of_ne]

/-- The flag of structured logs changes nothing but whether logs are structured. -/
theorem ofEnvironment_json (value : Option String) :
    ofEnvironment (update lookup "EB_JSON_LOGS" value) =
      { ofEnvironment lookup with
        jsonLogs := (value.map (parseFlag · false)).getD
          ((lookup "KUBERNETES_SERVICE_HOST").isSome || (lookup "DOCKER_CONTAINER").isSome) } := by
  simp [ofEnvironment, update_self, update_of_ne]

/-- A text that names no truth value is as good as no text for the flag of the console. For the flag
of structured logs it is so outside of containers and nowhere else: it turns them off, and without
the flag they are on in containers. -/
theorem ignores_flag_iff {value : String} (h : IsUnrecognized value) :
    Ignores lookup "EB_CONSOLE_OUTPUT" value ∧
      (Ignores lookup "EB_JSON_LOGS" value ↔ ¬InContainer lookup) := by
  constructor
  · rw [Ignores, ofEnvironment_console, ofEnvironment_console, Option.map_some, Option.getD_some,
      parseFlag_of_isUnrecognized h]
    rfl
  · rw [Ignores, ofEnvironment_json, ofEnvironment_json, Option.map_some, Option.getD_some,
      parseFlag_of_isUnrecognized h]
    simp [InContainer]

/-- A text with blanks around it that names no truth value, and no container. -/
theorem ignores_flag_iff_padded :
    let lookup := update (fun _ => none) "EB_LOG_LEVEL" (some "debug")
    IsUnrecognized " Enabled " ∧ Ignores lookup "EB_CONSOLE_OUTPUT" " Enabled " ∧
      Ignores lookup "EB_JSON_LOGS" " Enabled " := by
  intro lookup
  have hvalue : IsUnrecognized " Enabled " := by decide +kernel
  obtain ⟨hconsole, hjson⟩ := ignores_flag_iff lookup hvalue
  exact ⟨hvalue, hconsole, hjson.mpr (by simp [InContainer, lookup])⟩

/-- In a container logs are structured, but not if the flag says neither yes nor no. -/
theorem not_ignores_flag_container :
    let lookup := update (fun _ => none) "KUBERNETES_SERVICE_HOST" (some "10.0.0.1")
    IsUnrecognized "maybe" ∧ InContainer lookup ∧
      (ofEnvironment (update lookup "EB_JSON_LOGS" none)).jsonLogs = true ∧
      (ofEnvironment (update lookup "EB_JSON_LOGS" (some "maybe"))).jsonLogs = false ∧
      ¬Ignores lookup "EB_JSON_LOGS" "maybe" := by
  intro lookup
  have hvalue : IsUnrecognized "maybe" := by decide +kernel
  have hwithout : (ofEnvironment (update lookup "EB_JSON_LOGS" none)).jsonLogs = true := by
    simp [ofEnvironment_json, lookup]
  have hwith : (ofEnvironment (update lookup "EB_JSON_LOGS" (some "maybe"))).jsonLogs = false := by
    simp [ofEnvironment_json, parseFlag_of_isUnrecognized hvalue]
  refine ⟨hvalue, by simp [InContainer, lookup], hwithout, hwith, fun hignores => ?_⟩
  rw [hignores, hwithout] at hwith
  cases hwith

end TelemetryConfig

end ServiceBroker
