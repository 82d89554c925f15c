/-!
# The starter project

The texts of the files that a new project begins with: a manifest of two targets, and a
configuration that spells out the defaults.
-/

namespace Rollout.Command

/-- The name of the manifest of a new project. -/
def manifestFile : String :=
  "deploy.yaml"

/-- The name of the configuration that is looked for beside a manifest. -/
def configFile : String :=
  "sqldeploy.toml"

/-- Lines as a text. -/
def textOfLines (lines : List String) : String :=
  String.join (lines.map (· ++ "\n"))

/-- The manifest of a new project. -/
def starterManifest : String :=
  textOfLines
    ["name: my-deployment",
      "description: \"Managed by sqldeploy\"",
      "",
      "parameters:",
      "  server:",
      "    default: localhost",
      "  appPassword:",
      "    description: password for the application login",
      "",
      "targets:",
      "  database:",
      "    instances:",
      "      - name: \"\x7b\x7b params.server \x7d\x7d\"",
      "        operations:",
      "          - type: database",
      "            name: App",
      "            recovery_model: simple",
      "  logins:",
      "    depends_on: [database]",
      "    instances:",
      "      - name: \"\x7b\x7b params.server \x7d\x7d\"",
      "        operations:",
      "          - type: login",
      "            name: app",
      "            password: \"\x7b\x7b params.appPassword \x7d\x7d\"",
      "            default_database: App"]

/-- The configuration of a new project. -/
def starterConfig : String :=
  textOfLines
    ["[execution]",
      "max_parallel = 4",
      "",
      "[sqlcmd]",
      "program = \"sqlcmd\"",
      "login_timeout = 15",
      "",
      "# [instances.localhost]",
      "# server = \"localhost,1433\"",
      "# user = \"sa\"",
      "# password_env = \"SQLDEPLOY_SA_PASSWORD\"",
      "# trust_server_certificate = true"]

end Rollout.Command
