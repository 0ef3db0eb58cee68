import AddressIndex.Json.Basic

/-!
The description of the interface: its paths, what goes in and what comes out, in the form that tools
for such interfaces read.
-/

namespace AddressIndex.Api.Manual

/-! ### Schemas -/

/-- A value of a type, under a title. -/
def titled (type title : String) (more : Fields := []) : Json :=
  .obj ([("title", .str title), ("type", .str type)] ++ more)

def described (text : String) : Fields := [("description", .str text)]

/-- A value that a schema of that name describes. -/
def reference (name : String) : Json := .obj [("$ref", .str ("#/components/schemas/" ++ name))]

/-- An object with properties, some of which it has to have. -/
def object (title : String) (properties : Fields) (required : List String) (more : Fields := []) :
    Json :=
  titled "object" title
    ([("properties", .obj properties), ("required", .arr (required.map .str))] ++ more)

def errorList : Json :=
  .obj [("title", .str "HTTPValidationError"), ("type", .str "object"), ("properties", .obj [
    ("detail", titled "array" "Detail" [("items", reference "ValidationError")])])]

def error : Json :=
  object "ValidationError" [
    ("loc", titled "array" "Location" [("items", .obj [("anyOf", .arr [
      .obj [("type", .str "string")], .obj [("type", .str "integer")]])])]),
    ("msg", titled "string" "Message"),
    ("type", titled "string" "Error Type"),
    ("input", .obj [("title", .str "Input")]),
    ("ctx", titled "object" "Context")] ["loc", "msg", "type"]

def request : Json :=
  object "AnalyzeRequest" [
    ("address", titled "string" "Address" (described "Solana address (base58)" ++
      [("minLength", .int 1), ("maxLength", .int 64)]))] ["address"]
    (described "POST /analyze body.")

def accepted : Json :=
  object "AnalyzeResponse" [
    ("job_id",
      titled "integer" "Job Id" (described "Job id to poll with GET /jobs/\x7bjob_id\x7d")),
    ("address", titled "string" "Address"),
    ("status", titled "string" "Status" (described "pending | indexing | ready | error")),
    ("created", titled "boolean" "Created"
      (described "True if newly enqueued, False if already tracked"))]
    ["job_id", "address", "status", "created"]

def job : Json :=
  object "JobResponse" [
    ("job_id", titled "integer" "Job Id"),
    ("address", titled "string" "Address"),
    ("status", titled "string" "Status"),
    ("updated_at", titled "integer" "Updated At"
      (described "Unix timestamp of the last status change"))]
    ["job_id", "address", "status", "updated_at"]

def schemas : Json :=
  .obj [("HTTPValidationError", errorList), ("ValidationError", error), ("AnalyzeRequest", request),
    ("AnalyzeResponse", accepted), ("JobResponse", job)]

/-! ### Paths -/

/-- JSON of a schema. -/
def content (schema : Json) : String × Json :=
  ("content", .obj [("application/json", .obj [("schema", schema)])])

def success (schema : Json) : String × Json :=
  ("200", .obj (described "Successful Response" ++ [content schema]))

def failure : String × Json :=
  ("422", .obj (described "Validation Error" ++ [content (reference "HTTPValidationError")]))

/-- What a method does at a path. -/
def operation (summary id : String) (responses more : Fields) : Json :=
  .obj
    ([("summary", .str summary), ("operationId", .str id), ("responses", .obj responses)] ++ more)

def analyze : Json :=
  operation "Analyze" "analyze_analyze_post" [success (reference "AnalyzeResponse"), failure]
    (("requestBody", .obj [("required", .bool true), content (reference "AnalyzeRequest")]) ::
      described ("Enqueue an address for indexing.\n\nReturns 201 when a new pending job was " ++
        "created, 200 when the address\nalready has a job (whatever its status)."))

def getJob : Json :=
  operation "Get Job" "get_job_jobs__job_id__get" [success (reference "JobResponse"), failure]
    [("parameters", .arr [.obj [("name", .str "job_id"), ("in", .str "path"),
      ("required", .bool true), ("schema", titled "integer" "Job Id")]])]

def health : Json :=
  operation "Health" "health_health_get"
    [success (titled "object" "Response Health Health Get" [("additionalProperties", .bool true)])]
    (described "Liveness probe: API is up.")

def paths : Json :=
  .obj [("/analyze", .obj [("post", analyze)]), ("/jobs/\x7bjob_id\x7d", .obj [("get", getJob)]),
    ("/health", .obj [("get", health)])]

/-! ### The whole -/

def info : Json :=
  .obj ([("title", .str "On-chain Indexer API"), ("version", .str "0.1.0")] ++
    described "Enqueue Solana addresses for history indexing and poll job status.")

/-- The description of the interface. -/
def description : Json :=
  .obj [("openapi", .str "3.1.0"), ("info", info), ("paths", paths),
    ("components", .obj [("schemas", schemas)])]

end AddressIndex.Api.Manual
