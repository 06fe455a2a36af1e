/-
The template that ships with the service: the API of a policy engine
with two routes, `/graph` and `/openapi`. It is kept as text, line by
line, and never as a parsed document; braces are written by their code
point.
-/

namespace ApiMount.Template

/-- The lines of the shipped template. -/
def packagedLines : List String := [
  "\x7b",
  "  \"openapi\": \"3.0.0\",",
  "  \"info\": \x7b",
  "    \"title\": \"Policy Engine\",",
  "    \"description\": \"Serves the update graph filtered by the policies configured for this deployment.\",",
  "    \"version\": \"1.0.0\"",
  "  \x7d,",
  "  \"paths\": \x7b",
  "    \"/graph\": \x7b",
  "      \"get\": \x7b",
  "        \"summary\": \"Get the update graph\",",
  "        \"description\": \"Returns the upgrade graph for the requested channel and architecture.\",",
  "        \"operationId\": \"getGraph\",",
  "        \"parameters\": [",
  "          \x7b",
  "            \"in\": \"query\",",
  "            \"name\": \"arch\",",
  "            \"required\": false,",
  "            \"schema\": \x7b",
  "              \"type\": \"string\"",
  "            \x7d",
  "          \x7d",
  "        ],",
  "        \"responses\": \x7b",
  "          \"200\": \x7b",
  "            \"description\": \"The update graph\",",
  "            \"content\": \x7b",
  "              \"application/json\": \x7b",
  "                \"schema\": \x7b",
  "                  \"$ref\": \"#/components/schemas/Graph\"",
  "                \x7d",
  "              \x7d,",
  "              \"application/vnd.redhat.cincinnati.v1+json\": \x7b",
  "                \"schema\": \x7b",
  "                  \"$ref\": \"#/components/schemas/Graph\"",
  "                \x7d",
  "              \x7d",
  "            \x7d",
  "          \x7d,",
  "          \"400\": \x7b",
  "            \"description\": \"Missing or invalid query parameters\",",
  "            \"content\": \x7b",
  "              \"application/json\": \x7b",
  "                \"schema\": \x7b",
  "                  \"$ref\": \"#/components/schemas/Error\"",
  "                \x7d",
  "              \x7d",
  "            \x7d",
  "          \x7d,",
  "          \"406\": \x7b",
  "            \"description\": \"Unsupported Accept header\"",
  "          \x7d,",
  "          \"500\": \x7b",
  "            \"description\": \"Upstream or internal failure\",",
  "            \"content\": \x7b",
  "              \"application/json\": \x7b",
  "                \"schema\": \x7b",
  "                  \"$ref\": \"#/components/schemas/Error\"",
  "                \x7d",
  "              \x7d",
  "            \x7d",
  "          \x7d",
  "        \x7d",
  "      \x7d",
  "    \x7d,",
  "    \"/openapi\": \x7b",
  "      \"get\": \x7b",
  "        \"summary\": \"Get this OpenAPI document\",",
  "        \"operationId\": \"getOpenapi\",",
  "        \"responses\": \x7b",
  "          \"200\": \x7b",
  "            \"description\": \"The OpenAPI v3 document for this deployment\",",
  "            \"content\": \x7b",
  "              \"application/json\": \x7b",
  "                \"schema\": \x7b",
  "                  \"type\": \"object\"",
  "                \x7d",
  "              \x7d",
  "            \x7d",
  "          \x7d",
  "        \x7d",
  "      \x7d",
  "    \x7d",
  "  \x7d,",
  "  \"components\": \x7b",
  "    \"schemas\": \x7b",
  "      \"Graph\": \x7b",
  "        \"type\": \"object\",",
  "        \"required\": [\"nodes\", \"edges\"],",
  "        \"properties\": \x7b",
  "          \"nodes\": \x7b",
  "            \"type\": \"array\",",
  "            \"items\": \x7b",
  "              \"$ref\": \"#/components/schemas/Release\"",
  "            \x7d",
  "          \x7d,",
  "          \"edges\": \x7b",
  "            \"type\": \"array\",",
  "            \"items\": \x7b",
  "              \"type\": \"array\",",
  "              \"minItems\": 2,",
  "              \"maxItems\": 2,",
  "              \"items\": \x7b",
  "                \"type\": \"integer\",",
  "                \"format\": \"int64\"",
  "              \x7d",
  "            \x7d",
  "          \x7d",
  "        \x7d",
  "      \x7d,",
  "      \"Release\": \x7b",
  "        \"type\": \"object\",",
  "        \"required\": [\"version\", \"payload\", \"metadata\"],",
  "        \"properties\": \x7b",
  "          \"version\": \x7b",
  "            \"type\": \"string\"",
  "          \x7d,",
  "          \"payload\": \x7b",
  "            \"type\": \"string\"",
  "          \x7d,",
  "          \"metadata\": \x7b",
  "            \"type\": \"object\",",
  "            \"additionalProperties\": \x7b",
  "              \"type\": \"string\"",
  "            \x7d",
  "          \x7d",
  "        \x7d",
  "      \x7d,",
  "      \"Error\": \x7b",
  "        \"type\": \"object\",",
  "        \"required\": [\"kind\", \"value\"],",
  "        \"properties\": \x7b",
  "          \"kind\": \x7b",
  "            \"type\": \"string\"",
  "          \x7d,",
  "          \"value\": \x7b",
  "            \"type\": \"string\"",
  "          \x7d",
  "        \x7d",
  "      \x7d",
  "    \x7d",
  "  \x7d",
  "\x7d"]

/-- The text of the shipped template. -/
def packagedText : String :=
  String.join (packagedLines.map (· ++ "\n"))

/-- Where the shipped template lies among the files of the service. -/
def packagedAsset : String := "assets/openapiv3.json"

end ApiMount.Template
