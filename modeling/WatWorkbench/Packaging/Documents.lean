import WatWorkbench.Text.Basic

/-!
# Packaged documents

The two documents that lie beside a packaged module: a page that loads and runs it in a browser, and
notes on how to serve the files.  Both name the files they speak of.

* `Documents.runnerPage` — the page.
* `Documents.readme` — the notes.
-/

namespace WatWorkbench.Documents

/-! ## Names -/

/-- The name of the packaged binary. -/
def binaryName : Text := "module.wasm"

/-- The name of the packaged source. -/
def sourceName : Text := "source.wat"

/-- The name of the page. -/
def runnerName : Text := "index.html"

/-- The name of the notes. -/
def readmeName : Text := "README.md"

/-! ## The page -/

/-- What stands for the name of the binary in the page. -/
def binaryMark : Text := "__BINARY_NAME__"

/-- Lines, each with a line feed at its end. -/
def ofLines (lines : List String) : Text := Text.concat (lines.map fun l => Text.ofString l ++ "\n")

/-- What the page looks like. -/
def pageHead : List String := [
  "<!DOCTYPE html>",
  "<html lang=\"en\">",
  "<head>",
  "    <meta charset=\"UTF-8\">",
  "    <meta name=\"viewport\" content=\"width=device-width, initial-scale=1.0\">",
  "    <title>WebAssembly Runner</title>",
  "    <style>",
  "        body \x7b",
  "            font-family: system-ui, -apple-system, sans-serif;",
  "            max-width: 800px;",
  "            margin: 0 auto;",
  "            padding: 2rem;",
  "            background: #1a1a1a;",
  "            color: #eee;",
  "        \x7d",
  "        .container \x7b",
  "            display: flex;",
  "            flex-direction: column;",
  "            gap: 1rem;",
  "        \x7d",
  "        .output-panel \x7b",
  "            background: #111;",
  "            border: 1px solid #333;",
  "            border-radius: 4px;",
  "            padding: 1rem;",
  "            min-height: 100px;",
  "            font-family: monospace;",
  "            white-space: pre-wrap;",
  "        \x7d",
  "        button \x7b",
  "            background: #646cff;",
  "            color: white;",
  "            border: none;",
  "            padding: 8px 16px;",
  "            border-radius: 4px;",
  "            cursor: pointer;",
  "            font-size: 15px;",
  "        \x7d",
  "        button:hover \x7b",
  "            background: #747bff;",
  "        \x7d",
  "        .success \x7b color: #55ff55; \x7d",
  "        .error \x7b color: #ff5555; \x7d",
  "    </style>",
  "</head>" ]

/-- What the page shows. -/
def pageBody : List String := [
  "<body>",
  "    <div class=\"container\">",
  "        <h1>WebAssembly Runner</h1>",
  "        <button onclick=\"runWasm()\">Run WASM</button>",
  "        <div id=\"output\" class=\"output-panel\">Click \"Run WASM\" to execute the module...</div>",
  "    </div>" ]

/-- What the page does: it provides the same host functions as the sandbox, calls the entry point and
shows its result or the failure. -/
def pageScript : List String := [
  "    <script>",
  "        function appendLine(outputDiv, text, cls) \x7b",
  "            const line = document.createElement('div');",
  "            if (cls) \x7b",
  "                line.className = cls;",
  "            \x7d",
  "            line.textContent = text;",
  "            outputDiv.appendChild(line);",
  "        \x7d",
  "",
  "        async function runWasm() \x7b",
  "            const outputDiv = document.getElementById('output');",
  "            outputDiv.textContent = '';",
  "            let instance = null;",
  "            try \x7b",
  "                const response = await fetch('__BINARY_NAME__');",
  "                const wasmBuffer = await response.arrayBuffer();",
  "                const wasmModule = await WebAssembly.compile(wasmBuffer);",
  "",
  "                const imports = \x7b",
  "                    env: \x7b",
  "                        log: (value) => \x7b",
  "                            console.log(`WASM log: $\x7bvalue\x7d`);",
  "                            appendLine(outputDiv, `WASM log: $\x7bvalue\x7d`);",
  "                            return value;",
  "                        \x7d,",
  "                        log_string: (ptr, len) => \x7b",
  "                            const memory = instance.exports.memory;",
  "                            const bytes = new Uint8Array(memory.buffer, ptr >>> 0, len >>> 0);",
  "                            const text = new TextDecoder().decode(bytes);",
  "                            console.log(`WASM log: $\x7btext\x7d`);",
  "                            appendLine(outputDiv, `WASM log: $\x7btext\x7d`);",
  "                        \x7d",
  "                    \x7d",
  "                \x7d;",
  "",
  "                instance = await WebAssembly.instantiate(wasmModule, imports);",
  "",
  "                const main = instance.exports.main;",
  "                if (typeof main === 'function' && main.length === 0) \x7b",
  "                    const result = main();",
  "                    appendLine(outputDiv, `Result: $\x7bresult\x7d`, 'success');",
  "                \x7d else \x7b",
  "                    appendLine(outputDiv, 'No main function found in the WASM module', 'error');",
  "                \x7d",
  "            \x7d catch (error) \x7b",
  "                console.error('Error running WASM:', error);",
  "                outputDiv.textContent = '';",
  "                appendLine(outputDiv, `Error: $\x7berror.message\x7d`, 'error');",
  "            \x7d",
  "        \x7d",
  "    </script>",
  "</body>",
  "</html>" ]

/-- The page with a mark for the name of the binary. -/
def pageTemplate : Text := ofLines (pageHead ++ pageBody ++ pageScript)

/-- The page for a binary of the given name. -/
def runnerPage (binary : Text := binaryName) : Text := pageTemplate.replace binaryMark binary

/-! ## The notes -/

/-- The notes for files of the given names. -/
def readme (binary : Text := binaryName) (source : Text := sourceName)
    (runner : Text := runnerName) : Text :=
  Text.concat (List.map (fun (l : Text) => l ++ "\n") [
    "# WebAssembly Module",
    "",
    "This package contains:",
    ("- `" : Text) ++ binary ++ "`: The compiled WebAssembly binary",
    ("- `" : Text) ++ source ++ "`: The original WebAssembly Text Format source code",
    ("- `" : Text) ++ runner ++ "`: A web page to run the WebAssembly module",
    "",
    "## Usage",
    "1. Serve these files through a web server (WebAssembly can't be loaded from file://)",
    ("2. Open " : Text) ++ runner ++ " in your browser",
    "3. Click \"Run WASM\" to execute the module",
    "",
    "You can use a simple local server like:",
    "- Python: `python -m http.server`",
    "- Node.js: `npx serve`" ])

end WatWorkbench.Documents
