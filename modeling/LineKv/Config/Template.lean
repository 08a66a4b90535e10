import LineKv.Fault
import LineKv.Text.Case
import LineKv.Text.Space

/-!
Starter files. The daemon file and the accounts file each have a commented template, chosen by
kind; the kind is read case-insensitively without surrounding space, and an empty kind means the
daemon file.
-/

namespace LineKv.Config

def daemonTemplate : String :=
  "name = \"edgekv\"\nsecurity_mode = \"development\"\n\n[[listener]]\nname = \"plain\"\naddr = \"127.0.0.1:7379\"\nmax_conns = 1024\n\n[[listener]]\nname = \"compressed\"\naddr = \"127.0.0.1:7380\"\ncompress = true\n\n[limits]\nmax_line = 4096\nmax_pending = 256\nmax_sendq = 1048576\nflood_rate = 50.0\nflood_burst = 20\n\n[timeouts]\nkeepalive_interval = \"90s\"\nping_timeout = \"30s\"\nregistration_timeout = \"30s\"\nshutdown_grace = \"5s\"\n\n[storage]\nbackend = \"badger\"\npath = \"data\"\nsync_writes = true\ngc_interval = \"5m\"\n\n[auth]\naccounts_file = \"accounts.toml\"\nwatch = true\n\n[workers]\ncount = 4\nqueue_size = 256\n\n[admin]\naddr = \"127.0.0.1:9380\"\ncors_origins = [\"http://localhost:3000\"]\n\n[aliases]\nRM = \"DEL\"\n\n[logging]\nlevel = \"info\"\n"

def accountsTemplate : String :=
  "# Capabilities: r read, w write, p pub/sub, m monitor, e admin commands.\ndefault_capabilities = \"r\"\n\n# Hashes come from: edgekvd hash-password\n[[account]]\nname = \"admin\"\npassword_hash = \"$2a$10$replace.me.with.a.real.bcrypt.hash.from.hash-password\"\nadmin = true\n"

def template (kind : Bytes) : Except Fault String :=
  let k := Text.toLower (Text.trimSpace kind)
  if k.isEmpty || k == Bytes.ofString "daemon" || k == Bytes.ofString "edgekvd" then .ok daemonTemplate
  else if k == Bytes.ofString "accounts" then .ok accountsTemplate
  else .error (.plain (Bytes.ofString "unknown config kind: " ++ kind))

end LineKv.Config
