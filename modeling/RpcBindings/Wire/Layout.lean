/-! The layouts of messages: which fields a message of each type has, what they hold and what they
are called. The types are those of descriptors, of their options, and of the request that carries
them. -/
namespace RpcBindings.Wire

inductive MessageType where
  | request | version | fileSet | file | message | extensionRange | range | field | oneof | enum
  | enumValue | service | method | fileOptions | messageOptions | fieldOptions | oneofOptions
  | enumOptions | enumValueOptions | serviceOptions | methodOptions | extensionRangeOptions
  | declaration | editionDefault | featureSupport | features | uninterpretedOption | namePart
  | sourceInfo | location
  deriving DecidableEq, Repr

inductive Form where
  | int32 | int64 | uint64 | bool | double | text | bytes
  /-- One of the numbers that have a name. -/
  | choice (names : List (String × Int))
  | message (type : MessageType)
  deriving DecidableEq, Repr

inductive Occurrence where
  | optional | required | repeated
  deriving DecidableEq, Repr

structure FieldLayout where
  number : Nat
  name : String
  form : Form
  occurrence : Occurrence := .optional
  deriving DecidableEq, Repr

/-- Names with the numbers from a first one on. -/
def numbered (first : Int) (names : List String) : List (String × Int) :=
  names.mapIdx fun i name => (name, first + i)

def editions : List (String × Int) := [
  ("EDITION_UNKNOWN", 0), ("EDITION_LEGACY", 900), ("EDITION_PROTO2", 998), ("EDITION_PROTO3", 999),
  ("EDITION_2023", 1000), ("EDITION_2024", 1001), ("EDITION_1_TEST_ONLY", 1),
  ("EDITION_2_TEST_ONLY", 2), ("EDITION_99997_TEST_ONLY", 99997),
  ("EDITION_99998_TEST_ONLY", 99998), ("EDITION_99999_TEST_ONLY", 99999),
  ("EDITION_MAX", 2147483647)]

def valueTypes : List (String × Int) := numbered 1 [
  "TYPE_DOUBLE", "TYPE_FLOAT", "TYPE_INT64", "TYPE_UINT64", "TYPE_INT32", "TYPE_FIXED64",
  "TYPE_FIXED32", "TYPE_BOOL", "TYPE_STRING", "TYPE_GROUP", "TYPE_MESSAGE", "TYPE_BYTES",
  "TYPE_UINT32", "TYPE_ENUM", "TYPE_SFIXED32", "TYPE_SFIXED64", "TYPE_SINT32", "TYPE_SINT64"]

def labels : List (String × Int) :=
  numbered 1 ["LABEL_OPTIONAL", "LABEL_REQUIRED", "LABEL_REPEATED"]

def visibilities : List (String × Int) :=
  numbered 0 ["VISIBILITY_UNSET", "VISIBILITY_LOCAL", "VISIBILITY_EXPORT"]

def optimizations : List (String × Int) := numbered 1 ["SPEED", "CODE_SIZE", "LITE_RUNTIME"]

def textStores : List (String × Int) := numbered 0 ["STRING", "CORD", "STRING_PIECE"]

/-- How whole numbers of 64 bits are given to scripts. -/
def scriptNumbers : List (String × Int) := numbered 0 ["JS_NORMAL", "JS_STRING", "JS_NUMBER"]

def retentions : List (String × Int) :=
  numbered 0 ["RETENTION_UNKNOWN", "RETENTION_RUNTIME", "RETENTION_SOURCE"]

def optionTargets : List (String × Int) := numbered 0 [
  "TARGET_TYPE_UNKNOWN", "TARGET_TYPE_FILE", "TARGET_TYPE_EXTENSION_RANGE", "TARGET_TYPE_MESSAGE",
  "TARGET_TYPE_FIELD", "TARGET_TYPE_ONEOF", "TARGET_TYPE_ENUM", "TARGET_TYPE_ENUM_ENTRY",
  "TARGET_TYPE_SERVICE", "TARGET_TYPE_METHOD"]

def idempotencies : List (String × Int) :=
  numbered 0 ["IDEMPOTENCY_UNKNOWN", "NO_SIDE_EFFECTS", "IDEMPOTENT"]

/-- Whether extensions of a range have to be declared. -/
def verifications : List (String × Int) := numbered 0 ["DECLARATION", "UNVERIFIED"]

def presences : List (String × Int) :=
  numbered 0 ["FIELD_PRESENCE_UNKNOWN", "EXPLICIT", "IMPLICIT", "LEGACY_REQUIRED"]

/-- Whether an enum takes numbers without a name. -/
def enumTypes : List (String × Int) := numbered 0 ["ENUM_TYPE_UNKNOWN", "OPEN", "CLOSED"]

def repeatedEncodings : List (String × Int) :=
  numbered 0 ["REPEATED_FIELD_ENCODING_UNKNOWN", "PACKED", "EXPANDED"]

def textValidations : List (String × Int) :=
  [("UTF8_VALIDATION_UNKNOWN", 0), ("VERIFY", 2), ("NONE", 3)]

def messageEncodings : List (String × Int) :=
  numbered 0 ["MESSAGE_ENCODING_UNKNOWN", "LENGTH_PREFIXED", "DELIMITED"]

def jsonFormats : List (String × Int) :=
  numbered 0 ["JSON_FORMAT_UNKNOWN", "ALLOW", "LEGACY_BEST_EFFORT"]

def namingStyles : List (String × Int) :=
  numbered 0 ["ENFORCE_NAMING_STYLE_UNKNOWN", "STYLE2024", "STYLE_LEGACY"]

def defaultVisibilities : List (String × Int) := numbered 0 [
  "DEFAULT_SYMBOL_VISIBILITY_UNKNOWN", "EXPORT_ALL", "EXPORT_TOP_LEVEL", "LOCAL_ALL", "STRICT"]

/-- Options that are kept as they are written in the schema. -/
def uninterpreted : FieldLayout :=
  ⟨999, "uninterpreted_option", .message .uninterpretedOption, .repeated⟩

/-- A flag that is still read and has lost its name. -/
def retired (number : Nat) : FieldLayout := ⟨number, "", .bool, .optional⟩

/-- The fields of a type of messages in the order of their declaration. -/
def MessageType.fields : MessageType → List FieldLayout
  | request => [
    ⟨1, "file_to_generate", .text, .repeated⟩,
    ⟨2, "parameter", .text, .optional⟩,
    ⟨15, "proto_file", .message .file, .repeated⟩,
    ⟨17, "source_file_descriptors", .message .file, .repeated⟩,
    ⟨3, "compiler_version", .message .version, .optional⟩]
  | version => [
    ⟨1, "major", .int32, .optional⟩,
    ⟨2, "minor", .int32, .optional⟩,
    ⟨3, "patch", .int32, .optional⟩,
    ⟨4, "suffix", .text, .optional⟩]
  | fileSet => [⟨1, "file", .message .file, .repeated⟩]
  | file => [
    ⟨1, "name", .text, .optional⟩,
    ⟨2, "package", .text, .optional⟩,
    ⟨3, "dependency", .text, .repeated⟩,
    ⟨10, "public_dependency", .int32, .repeated⟩,
    ⟨11, "weak_dependency", .int32, .repeated⟩,
    ⟨15, "option_dependency", .text, .repeated⟩,
    ⟨4, "message_type", .message .message, .repeated⟩,
    ⟨5, "enum_type", .message .enum, .repeated⟩,
    ⟨6, "service", .message .service, .repeated⟩,
    ⟨7, "extension", .message .field, .repeated⟩,
    ⟨8, "options", .message .fileOptions, .optional⟩,
    ⟨9, "source_code_info", .message .sourceInfo, .optional⟩,
    ⟨12, "syntax", .text, .optional⟩,
    ⟨14, "edition", .choice editions, .optional⟩]
  | message => [
    ⟨1, "name", .text, .optional⟩,
    ⟨2, "field", .message .field, .repeated⟩,
    ⟨6, "extension", .message .field, .repeated⟩,
    ⟨3, "nested_type", .message .message, .repeated⟩,
    ⟨4, "enum_type", .message .enum, .repeated⟩,
    ⟨5, "extension_range", .message .extensionRange, .repeated⟩,
    ⟨8, "oneof_decl", .message .oneof, .repeated⟩,
    ⟨7, "options", .message .messageOptions, .optional⟩,
    ⟨9, "reserved_range", .message .range, .repeated⟩,
    ⟨10, "reserved_name", .text, .repeated⟩,
    ⟨11, "visibility", .choice visibilities, .optional⟩]
  | extensionRange => [
    ⟨1, "start", .int32, .optional⟩,
    ⟨2, "end", .int32, .optional⟩,
    ⟨3, "options", .message .extensionRangeOptions, .optional⟩]
  | range => [
    ⟨1, "start", .int32, .optional⟩,
    ⟨2, "end", .int32, .optional⟩]
  | field => [
    ⟨1, "name", .text, .optional⟩,
    ⟨3, "number", .int32, .optional⟩,
    ⟨4, "label", .choice labels, .optional⟩,
    ⟨5, "type", .choice valueTypes, .optional⟩,
    ⟨6, "type_name", .text, .optional⟩,
    ⟨2, "extendee", .text, .optional⟩,
    ⟨7, "default_value", .text, .optional⟩,
    ⟨9, "oneof_index", .int32, .optional⟩,
    ⟨10, "json_name", .text, .optional⟩,
    ⟨8, "options", .message .fieldOptions, .optional⟩,
    ⟨17, "proto3_optional", .bool, .optional⟩]
  | oneof => [
    ⟨1, "name", .text, .optional⟩,
    ⟨2, "options", .message .oneofOptions, .optional⟩]
  | enum => [
    ⟨1, "name", .text, .optional⟩,
    ⟨2, "value", .message .enumValue, .repeated⟩,
    ⟨3, "options", .message .enumOptions, .optional⟩,
    ⟨4, "reserved_range", .message .range, .repeated⟩,
    ⟨5, "reserved_name", .text, .repeated⟩,
    ⟨6, "visibility", .choice visibilities, .optional⟩]
  | enumValue => [
    ⟨1, "name", .text, .optional⟩,
    ⟨2, "number", .int32, .optional⟩,
    ⟨3, "options", .message .enumValueOptions, .optional⟩]
  | service => [
    ⟨1, "name", .text, .optional⟩,
    ⟨2, "method", .message .method, .repeated⟩,
    ⟨3, "options", .message .serviceOptions, .optional⟩]
  | method => [
    ⟨1, "name", .text, .optional⟩,
    ⟨2, "input_type", .text, .optional⟩,
    ⟨3, "output_type", .text, .optional⟩,
    ⟨4, "options", .message .methodOptions, .optional⟩,
    ⟨5, "client_streaming", .bool, .optional⟩,
    ⟨6, "server_streaming", .bool, .optional⟩]
  | fileOptions => [
    ⟨1, "java_package", .text, .optional⟩,
    ⟨8, "java_outer_classname", .text, .optional⟩,
    ⟨10, "java_multiple_files", .bool, .optional⟩,
    retired 20,
    ⟨27, "java_string_check_utf8", .bool, .optional⟩,
    ⟨9, "optimize_for", .choice optimizations, .optional⟩,
    ⟨11, "go_package", .text, .optional⟩,
    retired 16,
    retired 17,
    retired 18,
    ⟨23, "deprecated", .bool, .optional⟩,
    ⟨31, "cc_enable_arenas", .bool, .optional⟩,
    ⟨36, "objc_class_prefix", .text, .optional⟩,
    ⟨37, "csharp_namespace", .text, .optional⟩,
    ⟨39, "swift_prefix", .text, .optional⟩,
    ⟨40, "php_class_prefix", .text, .optional⟩,
    ⟨41, "php_namespace", .text, .optional⟩,
    ⟨44, "php_metadata_namespace", .text, .optional⟩,
    ⟨45, "ruby_package", .text, .optional⟩,
    ⟨50, "features", .message .features, .optional⟩,
    uninterpreted]
  | messageOptions => [
    ⟨1, "message_set_wire_format", .bool, .optional⟩,
    ⟨2, "no_standard_descriptor_accessor", .bool, .optional⟩,
    ⟨3, "deprecated", .bool, .optional⟩,
    ⟨7, "map_entry", .bool, .optional⟩,
    ⟨11, "deprecated_legacy_json_field_conflicts", .bool, .optional⟩,
    ⟨12, "features", .message .features, .optional⟩,
    uninterpreted]
  | fieldOptions => [
    ⟨1, "ctype", .choice textStores, .optional⟩,
    ⟨2, "packed", .bool, .optional⟩,
    ⟨6, "jstype", .choice scriptNumbers, .optional⟩,
    ⟨5, "lazy", .bool, .optional⟩,
    ⟨15, "unverified_lazy", .bool, .optional⟩,
    ⟨3, "deprecated", .bool, .optional⟩,
    ⟨10, "weak", .bool, .optional⟩,
    ⟨16, "debug_redact", .bool, .optional⟩,
    ⟨17, "retention", .choice retentions, .optional⟩,
    ⟨19, "targets", .choice optionTargets, .repeated⟩,
    ⟨20, "edition_defaults", .message .editionDefault, .repeated⟩,
    ⟨21, "features", .message .features, .optional⟩,
    ⟨22, "feature_support", .message .featureSupport, .optional⟩,
    uninterpreted]
  | oneofOptions => [⟨1, "features", .message .features, .optional⟩, uninterpreted]
  | enumOptions => [
    ⟨2, "allow_alias", .bool, .optional⟩,
    ⟨3, "deprecated", .bool, .optional⟩,
    ⟨6, "deprecated_legacy_json_field_conflicts", .bool, .optional⟩,
    ⟨7, "features", .message .features, .optional⟩,
    uninterpreted]
  | enumValueOptions => [
    ⟨1, "deprecated", .bool, .optional⟩,
    ⟨2, "features", .message .features, .optional⟩,
    ⟨3, "debug_redact", .bool, .optional⟩,
    ⟨4, "feature_support", .message .featureSupport, .optional⟩,
    uninterpreted]
  | serviceOptions => [
    ⟨34, "features", .message .features, .optional⟩,
    ⟨33, "deprecated", .bool, .optional⟩,
    uninterpreted]
  | methodOptions => [
    ⟨33, "deprecated", .bool, .optional⟩,
    ⟨34, "idempotency_level", .choice idempotencies, .optional⟩,
    ⟨35, "features", .message .features, .optional⟩,
    uninterpreted]
  | extensionRangeOptions => [
    uninterpreted,
    ⟨2, "declaration", .message .declaration, .repeated⟩,
    ⟨50, "features", .message .features, .optional⟩,
    ⟨3, "verification", .choice verifications, .optional⟩]
  | declaration => [
    ⟨1, "number", .int32, .optional⟩,
    ⟨2, "full_name", .text, .optional⟩,
    ⟨3, "type", .text, .optional⟩,
    ⟨5, "reserved", .bool, .optional⟩,
    ⟨6, "repeated", .bool, .optional⟩]
  | editionDefault => [
    ⟨3, "edition", .choice editions, .optional⟩,
    ⟨2, "value", .text, .optional⟩]
  | featureSupport => [
    ⟨1, "edition_introduced", .choice editions, .optional⟩,
    ⟨2, "edition_deprecated", .choice editions, .optional⟩,
    ⟨3, "deprecation_warning", .text, .optional⟩,
    ⟨4, "edition_removed", .choice editions, .optional⟩]
  | features => [
    ⟨1, "field_presence", .choice presences, .optional⟩,
    ⟨2, "enum_type", .choice enumTypes, .optional⟩,
    ⟨3, "repeated_field_encoding", .choice repeatedEncodings, .optional⟩,
    ⟨4, "utf8_validation", .choice textValidations, .optional⟩,
    ⟨5, "message_encoding", .choice messageEncodings, .optional⟩,
    ⟨6, "json_format", .choice jsonFormats, .optional⟩,
    ⟨7, "enforce_naming_style", .choice namingStyles, .optional⟩,
    ⟨8, "default_symbol_visibility", .choice defaultVisibilities, .optional⟩]
  | uninterpretedOption => [
    ⟨2, "name", .message .namePart, .repeated⟩,
    ⟨3, "identifier_value", .text, .optional⟩,
    ⟨4, "positive_int_value", .uint64, .optional⟩,
    ⟨5, "negative_int_value", .int64, .optional⟩,
    ⟨6, "double_value", .double, .optional⟩,
    ⟨7, "string_value", .bytes, .optional⟩,
    ⟨8, "aggregate_value", .text, .optional⟩]
  | namePart => [
    ⟨1, "name_part", .text, .required⟩,
    ⟨2, "is_extension", .bool, .required⟩]
  | sourceInfo => [⟨1, "location", .message .location, .repeated⟩]
  | location => [
    ⟨1, "path", .int32, .repeated⟩,
    ⟨2, "span", .int32, .repeated⟩,
    ⟨3, "leading_comments", .text, .optional⟩,
    ⟨4, "trailing_comments", .text, .optional⟩,
    ⟨6, "leading_detached_comments", .text, .repeated⟩]

def MessageType.field? (type : MessageType) (number : Nat) : Option FieldLayout :=
  type.fields.find? (·.number == number)

end RpcBindings.Wire
