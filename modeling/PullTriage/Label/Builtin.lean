import PullTriage.Label.Classifier

/-!
# The built-in tables

The rules that apply when a repository configures none: those of a JavaScript runtime with its
sources in `lib` and `src`, its dependencies in `deps` and its documentation in `doc`.

The order of the exclusive table matters, since the first rule that fires on a path is the only one
that counts: particular rules stand before the general ones (`^test/addons/` before `^test/`).  An
entry that another one before it always forestalls does no harm, and the table keeps it.
-/

namespace PullTriage

namespace LabelClassifier

/-- An entry of a table: a pattern, the labels, and an exclusion. -/
structure Entry where
  pattern : String
  labels : List String
  exclude : Option String
deriving Repr, DecidableEq

/-- The rule of an entry. -/
def Entry.rule (entry : Entry) : Except RuleError LabelRule := do
  let rule ← LabelRule.ofPattern entry.pattern entry.labels
  match entry.exclude with
  | some exclude => rule.excluding exclude
  | none => return rule

/-- The rules of a table.  Every entry of the tables here makes a rule. -/
def rulesOf (table : List Entry) : List LabelRule :=
  table.filterMap fun entry => entry.rule.toOption

/-- The entries of which the first that fires on a path counts. -/
def exclusiveTable : List Entry :=
  [ ⟨"^test/addons/", ["test", "addons"], none⟩,
    ⟨"^test/debugger", ["test", "debugger"], none⟩,
    ⟨"^test/doctool/", ["test", "doc", "tools"], none⟩,
    ⟨"^test/timers", ["test", "timers"], none⟩,
    ⟨"^test/pseudo-tty/", ["test", "tty"], none⟩,
    ⟨"^test/inspector", ["test", "inspector"], none⟩,
    ⟨"^test/cctest/test_inspector", ["test", "inspector"], none⟩,
    ⟨"^test/node-api/", ["test", "node-api"], none⟩,
    ⟨"^test/js-native-api/", ["test", "node-api"], none⟩,
    ⟨"^test/async-hooks/", ["test", "async_hooks"], none⟩,
    ⟨"^test/report/", ["test", "report"], none⟩,
    ⟨"^test/fixtures/es-module", ["test", "esm"], none⟩,
    ⟨"^test/es-module/", ["test", "esm"], none⟩,
    ⟨"^test/fixtures/wpt/streams/", ["test", "web streams"], none⟩,
    ⟨"^test/", ["test"], none⟩,
    ⟨"^doc/api/webcrypto.md$", ["doc", "crypto"], none⟩,
    ⟨"^doc/api/modules.md$", ["doc", "module"], none⟩,
    ⟨"^doc/api/n-api.md$", ["doc", "node-api"], none⟩,
    ⟨"^doc/api/worker_threads.md$", ["doc", "worker"], none⟩,
    ⟨"^doc/api/test.md$", ["doc", "test_runner"], none⟩,
    ⟨r"^doc/api/(\w+)\.md$", ["doc", "$1"], none⟩,
    ⟨"^doc/api/deprecations.md$", ["doc", "deprecations"], none⟩,
    ⟨"^doc/changelogs/", ["release"], none⟩,
    ⟨"^doc/", ["doc"], none⟩,
    ⟨"^benchmark/buffers/", ["benchmark", "buffer"], none⟩,
    ⟨"^benchmark/es/", ["benchmark", "v8 engine"], none⟩,
    ⟨"^benchmark/_http", ["benchmark", "http"], none⟩,
    ⟨"^benchmark/(?:misc|fixtures)/", ["benchmark"], none⟩,
    ⟨"^benchmark/streams/", ["benchmark", "stream"], none⟩,
    ⟨"^benchmark/url/", ["benchmark", "url", "whatwg-url"], none⟩,
    ⟨"^benchmark/([^/]+)/", ["benchmark", "$1"], none⟩,
    ⟨"^benchmark/", ["benchmark", "performance"], none⟩,
    ⟨"^src/async_wrap", ["c++", "async_wrap"], none⟩,
    ⟨"^src/(?:base64|node_buffer|string_)", ["c++", "buffer"], none⟩,
    ⟨"^src/cares", ["c++", "cares"], none⟩,
    ⟨"^src/(?:process_wrap|spawn_)", ["c++", "child_process"], none⟩,
    ⟨"^src/(?:node_)?crypto", ["c++", "crypto"], none⟩,
    ⟨"^src/debug_", ["c++", "debugger"], none⟩,
    ⟨"^src/udp_", ["c++", "dgram"], none⟩,
    ⟨"^src/(?:fs_|node_file|node_stat_watcher)", ["c++", "fs"], none⟩,
    ⟨"^src/node_http_parser", ["c++", "http_parser"], none⟩,
    ⟨"^src/node_i18n", ["c++", "i18n-api"], none⟩,
    ⟨r"^src/uv\.", ["c++", "libuv"], none⟩,
    ⟨"^src/(?:connect(?:ion)?|pipe|tcp)_", ["c++", "net"], none⟩,
    ⟨"^src/node_os", ["c++", "os"], none⟩,
    ⟨"^src/(?:node_main|signal_)", ["c++", "process"], none⟩,
    ⟨"^src/timer[_s]", ["c++", "timers"], none⟩,
    ⟨"^src/node_root_certs", ["c++", "tls"], none⟩,
    ⟨"^src/tty_", ["c++", "tty"], none⟩,
    ⟨"^src/node_url", ["c++", "whatwg-url"], none⟩,
    ⟨"^src/node_util", ["c++", "util"], none⟩,
    ⟨"^src/node_v8", ["c++", "v8 engine"], none⟩,
    ⟨"^src/node_contextify", ["c++", "vm"], none⟩,
    ⟨"^src/node_zlib", ["c++", "zlib"], none⟩,
    ⟨"^src/tracing", ["c++", "tracing"], none⟩,
    ⟨"^src/(?:node_api|js_native_api)", ["c++", "node-api"], none⟩,
    ⟨"^src/node_http2", ["c++", "http2"], none⟩,
    ⟨"^src/node_report", ["c++", "report"], none⟩,
    ⟨"^src/node_wasi", ["c++", "wasi"], none⟩,
    ⟨"^src/node_worker", ["c++", "worker"], none⟩,
    ⟨"^src/quic/*", ["c++", "quic"], none⟩,
    ⟨"^src/node_bob*", ["c++", "quic"], none⟩,
    ⟨"^src/node_sea", ["single-executable"], none⟩,
    ⟨"^src/inspector_", ["c++", "inspector", "needs-ci"], none⟩,
    ⟨"^src/", ["c++"], some r"^src/node_version\.h"⟩,
    ⟨r"^BUILDING\.md$", ["build", "doc"], none⟩,
    ⟨r"^(?:[A-Z]+$|CODE_OF_CONDUCT|GOVERNANCE|CHANGELOG|\.mail|\.git.+)", ["meta"], none⟩,
    ⟨r"^\w+\.md$", ["doc"], none⟩,
    ⟨"^(?:tools/)?(?:Makefile|BSDmakefile|create_android_makefiles)$",
      ["build", "needs-ci"], none⟩,
    ⟨r"^tools/(?:install\.py|getnodeversion\.py|js2c\.py|utils\.py|configure\.d/.*)$",
      ["build", "python", "needs-ci"], none⟩,
    ⟨r"^vcbuild\.bat$", ["build", "windows", "needs-ci"], none⟩,
    ⟨r"^(?:android-)?configure|node\.gyp|common\.gypi$", ["build", "needs-ci"], none⟩,
    ⟨"^tools/gyp", ["tools", "build", "gyp", "needs-ci"], none⟩,
    ⟨"^tools/doc/", ["tools", "doc"], none⟩,
    ⟨"^tools/icu/", ["tools", "i18n-api", "icu", "needs-ci"], none⟩,
    ⟨"^tools/osx-", ["tools", "macos"], none⟩,
    ⟨"^tools/test-npm", ["tools", "test", "npm"], none⟩,
    ⟨"^tools/test", ["tools", "test"], none⟩,
    ⟨"^tools/(?:certdata|mkssldef|mk-ca-bundle)", ["tools", "openssl", "tls"], none⟩,
    ⟨"^tools/msvs/", ["tools", "windows", "install", "needs-ci"], none⟩,
    ⟨r"^tools/[^/]+\.bat$", ["tools", "windows", "needs-ci"], none⟩,
    ⟨"^tools/make-v8", ["tools", "v8 engine", "needs-ci"], none⟩,
    ⟨"^tools/v8_gypfiles", ["tools", "v8 engine", "needs-ci"], none⟩,
    ⟨"^tools/snapshot", ["needs-ci"], none⟩,
    ⟨"^tools/build-addons.mjs", ["needs-ci"], none⟩,
    ⟨"^tools/", ["tools"], none⟩,
    ⟨r"^\.eslint|\.editorconfig", ["tools"], none⟩,
    ⟨"^typings/", ["typings"], none⟩,
    ⟨"^deps/uv/", ["libuv"], none⟩,
    ⟨r"^deps/v8/tools/gen-postmortem-metadata\.py", ["v8 engine", "python", "post-mortem"], none⟩,
    ⟨"^deps/v8/", ["v8 engine"], none⟩,
    ⟨"^deps/uvwasi/", ["wasi"], none⟩,
    ⟨"^deps/npm/", ["npm", "fast-track"], none⟩,
    ⟨r"^deps/nghttp2/nghttp2\.gyp", ["build", "http2"], none⟩,
    ⟨"^deps/nghttp2/", ["http2"], none⟩,
    ⟨"^deps/ngtcp2/", ["quic"], none⟩,
    ⟨"^deps/([^/]+)", ["dependencies", "$1"], none⟩,
    ⟨r"^lib/(?:punycode|\w+/freelist|sys\.js)", ["deprecation"], none⟩,
    ⟨r"^lib/constants\.js$", ["lib / src"], none⟩,
    ⟨"^lib/internal/debugger$", ["debugger"], none⟩,
    ⟨r"^lib/internal/linkedlist\.js$", ["timers"], none⟩,
    ⟨"^lib/internal/bootstrap", ["lib / src"], none⟩,
    ⟨"^lib/internal/v8_prof_", ["tools"], none⟩,
    ⟨r"^lib/internal/socket(?:_list|address)\.js$", ["net"], none⟩,
    ⟨r"^lib/\w+/streams$", ["stream"], none⟩,
    ⟨"^lib/.*http2", ["http2"], none⟩,
    ⟨"^lib/worker_threads.js$", ["worker"], none⟩,
    ⟨"^lib/test.js$", ["test_runner"], none⟩,
    ⟨r"^lib/internal/url\.js$", ["whatwg-url"], none⟩,
    ⟨"^lib/internal/modules/esm", ["esm"], none⟩,
    ⟨"^lib/internal/webstreams", ["web streams"], none⟩,
    ⟨"^lib/internal/test_runner", ["test_runner"], none⟩,
    ⟨r"^lib/_(\w+)_\w+\.js?$", ["$1"], none⟩,
    ⟨r"^lib(?:/internal)?/(\w+)\.js?$", ["$1"], none⟩,
    ⟨r"^lib(?:/internal)?/(\w+)(?:/|$)", ["$1"], none⟩ ]

/-- The entries that all count. -/
def inclusiveTable : List Entry :=
  [ ⟨"^(deps|lib|src|test)/", ["needs-ci"], none⟩,
    ⟨"^(lib|src)/", ["lib / src"], none⟩ ]

/-- The subsystems that a description can name. -/
def subsystemNames : List String :=
  [ "assert", "async_hooks", "buffer", "child_process", "cluster", "console", "crypto",
    "debugger", "dgram", "diagnostics_channel", "dns", "domain", "events", "esm", "fs", "http",
    "https", "http2", "inspector", "module", "net", "os", "path", "perf_hooks", "process",
    "punycode", "querystring", "quic", "readline", "repl", "report", "stream", "string_decoder",
    "timers", "tls", "trace_events", "tty", "typings", "url", "util", "v8", "vm", "wasi",
    "worker", "zlib" ]

/-- The classifier of the built-in tables. -/
def builtin : LabelClassifier :=
  ofTables (rulesOf exclusiveTable) (rulesOf inclusiveTable) subsystemNames

end LabelClassifier

end PullTriage
