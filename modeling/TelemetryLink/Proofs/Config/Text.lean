import TelemetryLink.Proofs.Config.Document

/-!
# Configurations are read as they were written

A configuration has a text unless one of its numbers is too great for the format, and its text is
read as the configuration itself. Without some of its lines and sections the text is read as the
configuration with defaults in their places.

- `Config.Writable`: the format can hold all numbers of a configuration.
- `Config.keeping`: a configuration with defaults in place of what is not kept.
- `exists_render_iff`, `parse_render`: which configurations have a text, and what the text says.
- `parse_kept`: what is left of the text says.
-/

namespace TelemetryLink

namespace Config

open Toml

variable {sections : List (String × List (String × Written))}

/-! ## The sections of a configuration -/

theorem serverShape_lawful : serverShape.Lawful where
  fields := by
    iterate 4 refine List.forall_mem_cons.2 ⟨Field.lawful_of (by decide), ?_⟩
    exact nofun
  nodup := by decide

theorem deviceShape_lawful : deviceShape.Lawful where
  fields := by
    iterate 2 refine List.forall_mem_cons.2 ⟨Field.lawful_of (by decide), ?_⟩
    exact nofun
  nodup := by decide

theorem authShape_lawful : authShape.Lawful where
  fields := List.forall_mem_cons.2 ⟨Field.lawful_of (by decide), nofun⟩
  nodup := by decide

theorem sessionShape_lawful : sessionShape.Lawful where
  fields := by
    iterate 3 refine List.forall_mem_cons.2 ⟨Field.lawful_of (by decide), ?_⟩
    exact nofun
  nodup := by decide

theorem reconnectShape_lawful : reconnectShape.Lawful where
  fields := by
    iterate 4 refine List.forall_mem_cons.2 ⟨Field.lawful_of (by decide), ?_⟩
    exact nofun
  nodup := by decide

theorem readingShape_lawful : readingShape.Lawful where
  fields := by
    iterate 10 refine List.forall_mem_cons.2 ⟨Field.lawful_of (by decide), ?_⟩
    exact nofun
  nodup := by decide

theorem loggingShape_lawful : loggingShape.Lawful where
  fields := List.forall_mem_cons.2 ⟨Field.lawful_of (by decide), nofun⟩
  nodup := by decide

/-- The format can hold the numbers of 64 bits. -/
def Server.Writable (s : Server) : Prop := Fits s.connectTimeoutSecs ∧ Fits s.ioTimeoutSecs

/-- The format can hold the number of 64 bits. -/
def Session.Writable (s : Session) : Prop := Fits s.intervalMs

/-- The format can hold the numbers of 64 bits. -/
def Reconnect.Writable (s : Reconnect) : Prop := Fits s.baseBackoffMs ∧ Fits s.maxBackoffMs

/-- The format can hold all numbers of a configuration. -/
def Writable (config : Config) : Prop :=
  config.server.Writable ∧ config.session.Writable ∧ config.reconnect.Writable

instance (config : Config) : Decidable config.Writable :=
  inferInstanceAs (Decidable ((_ ∧ _) ∧ Fits _ ∧ (_ ∧ _)))

theorem exists_write_server {s : Server} :
    (∃ values, serverShape.write s = .ok values) ↔ s.Writable := by
  refine Shape.exists_write_iff.trans ?_
  simp [Server.Writable, Field.exists_write_of_total, Field.exists_write_uint64]

theorem exists_write_device (s : Device) : ∃ values, deviceShape.write s = .ok values := by
  refine Shape.exists_write_iff.2 ?_
  simp [Field.exists_write_of_total]

theorem exists_write_auth (s : Auth) : ∃ values, authShape.write s = .ok values := by
  refine Shape.exists_write_iff.2 (List.forall_mem_cons.2 ⟨?_, nofun⟩)
  obtain ⟨_ | key⟩ := s
  · exact ⟨_, rfl⟩
  · exact ⟨_, rfl⟩

theorem exists_write_session {s : Session} :
    (∃ values, sessionShape.write s = .ok values) ↔ s.Writable := by
  refine Shape.exists_write_iff.trans ?_
  simp [Session.Writable, Field.exists_write_of_total, Field.exists_write_uint64]

theorem exists_write_reconnect {s : Reconnect} :
    (∃ values, reconnectShape.write s = .ok values) ↔ s.Writable := by
  refine Shape.exists_write_iff.trans ?_
  simp [Reconnect.Writable, Field.exists_write_of_total, Field.exists_write_uint64]

theorem exists_write_reading (s : Reading) : ∃ values, readingShape.write s = .ok values := by
  refine Shape.exists_write_iff.2 ?_
  simp [Field.exists_write_of_total]

theorem exists_write_logging (s : Logging) : ∃ values, loggingShape.write s = .ok values := by
  refine Shape.exists_write_iff.2 ?_
  simp [Field.exists_write_of_total]

/-- Of the sections only three have such numbers. -/
theorem exists_writeParts_parts {config : Config} :
    (∃ sections, writeParts parts config = .ok sections) ↔ config.Writable := by
  have hserver := exists_write_server (s := config.server)
  have hsession := exists_write_session (s := config.session)
  have hreconnect := exists_write_reconnect (s := config.reconnect)
  rw [exists_writeParts_iff]
  simp only [parts, Part.of, List.forall_mem_cons, hserver, hsession, hreconnect,
    exists_write_device, exists_write_auth, exists_write_reading, exists_write_logging,
    Writable, true_and, List.not_mem_nil, false_implies, implies_true, and_true]

/-! ## What is kept -/

/-- The section with its defaults in place of the settings that are not kept. -/
def Server.keeping (s : Server) (keeps : String → Bool) : Server :=
  let default : Server := {}
  { host := if keeps "host" then s.host else default.host
    port := if keeps "port" then s.port else default.port
    connectTimeoutSecs :=
      if keeps "connect_timeout_secs" then s.connectTimeoutSecs else default.connectTimeoutSecs
    ioTimeoutSecs := if keeps "io_timeout_secs" then s.ioTimeoutSecs else default.ioTimeoutSecs }

/-- The section with its defaults in place of the settings that are not kept. -/
def Device.keeping (s : Device) (keeps : String → Bool) : Device :=
  let default : Device := {}
  { id := if keeps "id" then s.id else default.id
    flags := if keeps "flags" then s.flags else default.flags }

/-- The section without the key if that is not kept. -/
def Auth.keeping (s : Auth) (keeps : String → Bool) : Auth where
  key := if keeps "key" then s.key else none

/-- The section with its defaults in place of the settings that are not kept. -/
def Session.keeping (s : Session) (keeps : String → Bool) : Session :=
  let default : Session := {}
  { frames := if keeps "frames" then s.frames else default.frames
    intervalMs := if keeps "interval_ms" then s.intervalMs else default.intervalMs
    ping := if keeps "ping" then s.ping else default.ping }

/-- The section with its defaults in place of the settings that are not kept. -/
def Reconnect.keeping (s : Reconnect) (keeps : String → Bool) : Reconnect :=
  let default : Reconnect := {}
  { enabled := if keeps "enabled" then s.enabled else default.enabled
    maxAttempts := if keeps "max_attempts" then s.maxAttempts else default.maxAttempts
    baseBackoffMs := if keeps "base_backoff_ms" then s.baseBackoffMs else default.baseBackoffMs
    maxBackoffMs := if keeps "max_backoff_ms" then s.maxBackoffMs else default.maxBackoffMs }

/-- The section with its defaults in place of the settings that are not kept. -/
def Reading.keeping (s : Reading) (keeps : String → Bool) : Reading :=
  let default : Reading := {}
  { format := if keeps "format" then s.format else default.format
    temperature := if keeps "temperature" then s.temperature else default.temperature
    humidity := if keeps "humidity" then s.humidity else default.humidity
    pressure := if keeps "pressure" then s.pressure else default.pressure
    accX := if keeps "acc_x" then s.accX else default.accX
    accY := if keeps "acc_y" then s.accY else default.accY
    accZ := if keeps "acc_z" then s.accZ else default.accZ
    powerInfo := if keeps "power_info" then s.powerInfo else default.powerInfo
    movementCounter := if keeps "movement_counter" then s.movementCounter else default.movementCounter
    measurementSeq := if keeps "measurement_seq" then s.measurementSeq else default.measurementSeq }

/-- The section with its default in place of the level if that is not kept. -/
def Logging.keeping (s : Logging) (keeps : String → Bool) : Logging :=
  let default : Logging := {}
  { level := if keeps "level" then s.level else default.level }

/-- The configuration with the defaults in place of the settings that are not kept. -/
def keeping (config : Config) (keeps : String → String → Bool) : Config where
  server := config.server.keeping (keeps "server")
  device := config.device.keeping (keeps "device")
  auth := config.auth.keeping (keeps "auth")
  session := config.session.keeping (keeps "session")
  reconnect := config.reconnect.keeping (keeps "reconnect")
  reading := config.reading.keeping (keeps "record")
  logging := config.logging.keeping (keeps "logging")

variable {keeps : String → Bool}

theorem copy_server {s : Server} (h : ∃ values, serverShape.write s = .ok values) :
    (serverShape.only keeps).copy s {} = s.keeping keeps := by
  obtain ⟨hconnect, hio⟩ := exists_write_server.1 h
  rw [Shape.copy_only]
  simp (disch := first | exact fun _ => rfl | assumption) only [serverShape, List.foldl_cons,
    List.foldl_nil, Field.keep_of_total, Field.keep_of_uint64]
  rfl

theorem copy_device (s : Device) : (deviceShape.only keeps).copy s {} = s.keeping keeps := by
  rw [Shape.copy_only]
  simp (disch := exact fun _ => rfl) only [deviceShape, List.foldl_cons, List.foldl_nil,
    Field.keep_of_total]
  rfl

/-- An absent key is not written. -/
theorem copy_auth (s : Auth) : (authShape.only keeps).copy s {} = s.keeping keeps := by
  rw [Shape.copy_only]
  simp only [authShape, List.foldl_cons, List.foldl_nil, Field.copy_of_option]
  -- Whether its line is left out or was never there makes no difference.
  change (if keeps "key" then _ else _) = _
  obtain ⟨_ | key⟩ := s
  · exact (ite_self _).trans (congrArg Auth.mk (ite_self _).symm)
  · exact (apply_ite Auth.mk (keeps "key" = true) (some key) none).symm

theorem copy_session {s : Session} (h : ∃ values, sessionShape.write s = .ok values) :
    (sessionShape.only keeps).copy s {} = s.keeping keeps := by
  have hinterval : Fits s.intervalMs := exists_write_session.1 h
  rw [Shape.copy_only]
  simp (disch := first | exact fun _ => rfl | assumption) only [sessionShape, List.foldl_cons,
    List.foldl_nil, Field.keep_of_total, Field.keep_of_uint64]
  rfl

theorem copy_reconnect {s : Reconnect} (h : ∃ values, reconnectShape.write s = .ok values) :
    (reconnectShape.only keeps).copy s {} = s.keeping keeps := by
  obtain ⟨hbase, hmax⟩ := exists_write_reconnect.1 h
  rw [Shape.copy_only]
  simp (disch := first | exact fun _ => rfl | assumption) only [reconnectShape, List.foldl_cons,
    List.foldl_nil, Field.keep_of_total, Field.keep_of_uint64]
  rfl

theorem copy_reading (s : Reading) : (readingShape.only keeps).copy s {} = s.keeping keeps := by
  rw [Shape.copy_only]
  simp (disch := exact fun _ => rfl) only [readingShape, List.foldl_cons, List.foldl_nil,
    Field.keep_of_total]
  rfl

theorem copy_logging (s : Logging) : (loggingShape.only keeps).copy s {} = s.keeping keeps := by
  rw [Shape.copy_only]
  simp (disch := exact fun _ => rfl) only [loggingShape, List.foldl_cons, List.foldl_nil,
    Field.keep_of_total]
  rfl

theorem parts_lawful : ∀ part ∈ parts, part.Lawful := by
  unfold parts
  simp only [List.forall_mem_cons]
  exact ⟨Part.lawful_of (by decide) serverShape_lawful fun _ => rfl,
    Part.lawful_of (by decide) deviceShape_lawful fun _ => rfl,
    Part.lawful_of (by decide) authShape_lawful fun _ => rfl,
    Part.lawful_of (by decide) sessionShape_lawful fun _ => rfl,
    Part.lawful_of (by decide) reconnectShape_lawful fun _ => rfl,
    Part.lawful_of (by decide) readingShape_lawful fun _ => rfl,
    Part.lawful_of (by decide) loggingShape_lawful fun _ => rfl, nofun⟩

theorem parts_nodup : (parts.map (·.name)).Nodup := by decide

/-- A configuration that takes over what is kept of another is the other, with defaults in place of
the rest. -/
theorem copy_parts {config : Config} (hwritable : config.Writable)
    (keeps : String → String → Bool) :
    parts.foldl (fun target part => (part.only (keeps part.name)).copy config target) {} =
      config.keeping keeps := by
  have hsections := exists_writeParts_iff.1 (exists_writeParts_parts.2 hwritable)
  simp only [parts, List.forall_mem_cons] at hsections
  obtain ⟨hserver, hdevice, hauth, hsession, hreconnect, hreading, hlogging, -⟩ := hsections
  simp only [parts, List.foldl_cons, List.foldl_nil, Part.name_of,
    Part.copy_of serverShape_lawful hserver, copy_server hserver,
    Part.copy_of deviceShape_lawful hdevice, copy_device,
    Part.copy_of authShape_lawful hauth, copy_auth,
    Part.copy_of sessionShape_lawful hsession, copy_session hsession,
    Part.copy_of reconnectShape_lawful hreconnect, copy_reconnect hreconnect,
    Part.copy_of readingShape_lawful hreading, copy_reading,
    Part.copy_of loggingShape_lawful hlogging, copy_logging]
  rfl

/-! ## Reading and writing -/

/-- A configuration has a text exactly if the format can hold its numbers. -/
theorem exists_render_iff {config : Config} :
    (∃ text, config.render = .ok text) ↔ config.Writable := by
  rw [← exists_writeParts_parts]
  change (∃ text, (do return String.ofList (Written.document (← writeParts parts config)) :
    Except WriteError String) = .ok text) ↔ _
  exact exists_bind_pure_iff

/-- The text of a configuration is that of its sections. -/
theorem render_of_writeParts {config : Config} (hwrite : writeParts parts config = .ok sections) :
    config.render = .ok (String.ofList (Written.document sections)) := by
  change (do return String.ofList (Written.document (← writeParts parts config)) :
    Except WriteError String) = _
  rw [hwrite]
  rfl

/-- A text of what is left of the sections of a configuration is read as what is kept of it. -/
theorem parse_of_outline {config : Config} (hwrite : writeParts parts config = .ok sections)
    {headed : String → Bool} {keeps : String → String → Bool}
    (hheaded : ∀ table, headed table = false → ∀ key, keeps table key = false) {text : String}
    (htext : (Toml.parse text).map Entries.outline =
      some (Written.outline (Written.only headed keeps sections))) :
    parse text = .ok (config.keeping keeps) := by
  obtain ⟨entries, hparse, hentries⟩ := Option.map_eq_some_iff.1 htext
  have hread := readEntries_of_write parts_lawful parts_nodup hheaded (fun _ h => h) hwrite
    hentries {}
  rw [parse, hparse]
  dsimp only
  rw [hread, copy_parts (exists_writeParts_parts.1 ⟨sections, hwrite⟩)]
  rfl

/-- What is left of the text of a configuration is read as what is kept of it. -/
theorem parse_kept {config : Config} (hwrite : writeParts parts config = .ok sections)
    {kept : List Written.Piece} (hkept : kept.Sublist (Written.pieces sections))
    (hheaded : Written.Headed kept) :
    parse (String.ofList (kept.flatMap Written.Piece.text)) =
      .ok (config.keeping (Written.keeps kept)) :=
  parse_of_outline hwrite (fun _ htable => hheaded.keeps_eq_false htable)
    (parse_pieces (plain_of_writeParts parts_lawful parts_nodup hwrite) hkept hheaded)

/-- The text of a configuration is read as the configuration. -/
theorem parse_render {config : Config} {text : String} (h : config.render = .ok text) :
    parse text = .ok config := by
  obtain ⟨sections, hwrite⟩ := exists_writeParts_parts.2 (exists_render_iff.1 ⟨text, h⟩)
  cases (render_of_writeParts hwrite).symm.trans h
  have hall : Written.only (fun _ => true) (fun _ _ => true) sections = sections :=
    Written.only_eq_self (fun _ _ => rfl) fun _ _ _ _ => rfl
  have hdocument := parse_document (plain_of_writeParts parts_lawful parts_nodup hwrite)
  refine parse_of_outline hwrite ?_ (hdocument.trans (congrArg _ (congrArg _ hall.symm)))
  exact nofun

end Config

end TelemetryLink
